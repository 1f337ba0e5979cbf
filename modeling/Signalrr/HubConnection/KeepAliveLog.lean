import Signalrr.HubConnection.BackgroundLoops

set_option relaxedAutoImplicit false
set_option autoImplicit false

/-!
# The log of the keep-alive task

What the keep-alive task of `src/hub_connection/runtime.rs` does is put on a log with the times,
besides what happens around it: messages that come and go, and the flag that the receive task sets.

## Main definitions

* `Signalrr.HubConnection.KeepAliveLog` — what happened in a run of the task, and when.
* `Signalrr.HubConnection.KeepAliveLog.note` — the log after an action.
* `Signalrr.HubConnection.KeepAliveLoop.Step` — everything a step can do.

## Main results

* `Signalrr.HubConnection.KeepAliveLoop.step_of_next` — every step of the task is one of these.

## Design

The log speaks about what happened, `arrivals` and `sends`, and not about when the task took notice
of it. What the task does is read off the states before and after a step: how many pings it has
sent, which reports, and where it has got to. A permit that is still there when the task pings or
times out is part of the entry: `select!` has then passed over a message that had come or gone.
-/

namespace Signalrr.HubConnection

/-! ## What happens in a run -/

/-- A ping: when it was begun and when it was sent, and whether there was a permit of `sent`. -/
structure KeepAlivePing where
  begun : ℕ
  ended : ℕ
  permit : Bool

/-- A server timeout: when it was found, and whether there was a permit of `received`. -/
structure KeepAliveTimeout where
  time : ℕ
  permit : Bool

/-- A `TransportEvent::Closed` that the task has sent. -/
structure KeepAliveReport where
  time : ℕ
  info : TransportCloseInfo

/-- What happened in a run of the keep-alive task. -/
structure KeepAliveLog where
  /-- When the task was spawned. -/
  start : ℕ
  /-- When messages of the server came. -/
  arrivals : List ℕ
  /-- When messages were sent, other than pings. -/
  sends : List ℕ
  /-- When another task set `transport_close_signaled`. -/
  signals : List ℕ
  pings : List KeepAlivePing
  timeouts : List KeepAliveTimeout
  reports : List KeepAliveReport
  /-- When the task called `close` of the transport. -/
  closes : List ℕ
  /-- When the last message came, at first `start`. -/
  lastArrival : ℕ
  /-- When the last message or ping was sent, at first `start`. -/
  lastActive : ℕ

namespace KeepAliveLog

variable {options : KeepAliveOptions} {log : KeepAliveLog} {s s' : KeepAliveLoop}

/-- The log of a task that was just spawned. -/
def spawned (start : ℕ) : KeepAliveLog := ⟨start, [], [], [], [], [], [], [], start, start⟩

/-- Puts what the task has done from `s` to `s'` on the log: it has counted a ping, got to a place
where it has timed out or closes the transport, or sent reports. -/
def act (log : KeepAliveLog) (s s' : KeepAliveLoop) : KeepAliveLog :=
  { log with
    pings := if s.pings < s'.pings then log.pings ++ [⟨s.now, s'.now, s.sent⟩] else log.pings
    timeouts :=
      if s'.pc = .timedOut ∧ s.pc ≠ .timedOut then log.timeouts ++ [⟨s.now, s.received⟩]
      else log.timeouts
    reports := log.reports ++ (s'.reports.drop s.reports.length).map fun info => ⟨s.now, info⟩
    closes := if s'.pc = .closing ∧ s.pc ≠ .closing then log.closes ++ [s.now] else log.closes
    lastActive := if s.pings < s'.pings then s'.now else log.lastActive }

/-- Puts a step on the log. What comes from outside is read off the action, and what the task does
off the states. -/
def change (log : KeepAliveLog) (s s' : KeepAliveLoop) : KeepAliveAction → KeepAliveLog
  | .input .received =>
    { log with arrivals := log.arrivals ++ [s.now], lastArrival := s.now }
  | .input .sent => { log with sends := log.sends ++ [s.now], lastActive := s.now }
  | .receive _ closeSignaled _ =>
    if closeSignaled && !s.closeSignaled then { log with signals := log.signals ++ [s.now] }
    else log
  | .step | .select _ => log.act s s'
  | .input _ | .elapse _ => log

/-- The log after an action, if it is taken. -/
def note (options : KeepAliveOptions) (log : KeepAliveLog) (s : KeepAliveLoop)
    (a : KeepAliveAction) : KeepAliveLog :=
  match s.next options a with
  | some s' => log.change s s' a
  | none => log

lemma change_signal (hflag : s.closeSignaled = false) (pc : ReceivePc)
    (reports : List TransportCloseInfo) :
    log.change s s' (.receive pc true reports) =
      { log with signals := log.signals ++ [s.now] } := by
  simp [change, hflag]

lemma note_of_next {a : KeepAliveAction} (h : s.next options a = some s') :
    log.note options s a = log.change s s' a := by
  rw [note, h]

end KeepAliveLog

/-- The task has found a timeout, and is not done with it. -/
def KeepAlivePc.timingOut : KeepAlivePc → Bool
  | timedOut | reportTimeout | closing => true
  | loop | select | ended => false

/-- The task is behind the place where it reports a timeout. -/
def KeepAlivePc.isPastReport : KeepAlivePc → Bool
  | closing | ended => true
  | _ => false

/-- Where a task goes that does not time out: it stays, it takes another turn or ends, or it has
closed the transport. -/
inductive KeepAlivePc.Calm : KeepAlivePc → KeepAlivePc → Prop where
  | stay (pc : KeepAlivePc) : Calm pc pc
  | turn {pc pc' : KeepAlivePc} (hleft : pc.hasLeft = false) (hcalm : pc'.timingOut = false) :
    Calm pc pc'
  | closed : Calm closing ended

namespace KeepAlivePc.Calm

variable {pc pc' : KeepAlivePc}

/-- A task that has left its loop does not come back. -/
lemma left (h : pc.Calm pc') (hleft : pc.hasLeft = true) : pc'.hasLeft = true := by
  cases h with
  | stay => exact hleft
  | turn hloop =>
    rw [hleft] at hloop
    cases hloop
  | closed => rfl

/-- It has not found a timeout unless it has had one. -/
lemma timingOut (h : pc.Calm pc') (htiming : pc'.timingOut = true) : pc.timingOut = true := by
  cases h with
  | stay => exact htiming
  | turn _ hcalm =>
    rw [htiming] at hcalm
    cases hcalm
  | closed => rfl

/-- It does not come back to the place where it reports a timeout. -/
lemma isPastReport (h : pc.Calm pc') (hpast : pc'.isPastReport = false) :
    pc.isPastReport = false := by
  cases h with
  | stay => exact hpast
  | turn hloop => cases pc <;> first | rfl | cases hloop
  | closed => cases hpast

/-- It does not pass over the report of a timeout. -/
lemma reportTimeout (h : pc.Calm pc') (hpc : pc = .reportTimeout) : pc' = .reportTimeout := by
  cases h with
  | stay => exact hpc
  | turn hloop =>
    rw [hpc] at hloop
    cases hloop
  | closed => cases hpc

end KeepAlivePc.Calm

namespace KeepAliveLog

variable {log : KeepAliveLog} {s s' : KeepAliveLoop}

/-- Nothing is put on the log unless the task pings, times out or reports. -/
lemma act_eq_self (hpings : s'.pings = s.pings) (hreports : s'.reports = s.reports)
    (htimedOut : s'.pc ≠ .timedOut) (hclosing : s'.pc ≠ .closing) : log.act s s' = log := by
  simp [act, hpings, hreports, htimedOut, hclosing]

/-- A task that takes another turn is at neither of the places that are put on the log. -/
lemma act_of_calm (hpings : s'.pings = s.pings) (hreports : s'.reports = s.reports)
    (hcalm : s'.pc.timingOut = false) : log.act s s' = log := by
  refine act_eq_self hpings hreports ?_ ?_ <;>
  · intro hpc
    rw [hpc] at hcalm
    cases hcalm

/-- A ping is put on the log. -/
lemma act_ping (hpings : s'.pings = s.pings + 1) (hreports : s'.reports = s.reports)
    (hloop : s'.pc = .loop) :
    log.act s s' =
      { log with pings := log.pings ++ [⟨s.now, s'.now, s.sent⟩], lastActive := s'.now } := by
  simp [act, hpings, hreports, hloop]

/-- A timeout is put on the log. -/
lemma act_timedOut (hpings : s'.pings = s.pings) (hreports : s'.reports = s.reports)
    (hselect : s.pc = .select) (htimedOut : s'.pc = .timedOut) :
    log.act s s' = { log with timeouts := log.timeouts ++ [⟨s.now, s.received⟩] } := by
  simp [act, hpings, hreports, hselect, htimedOut]

/-- A call of `close` is put on the log, with what the task has reported in the step. -/
lemma act_closing (infos : List TransportCloseInfo) (hpings : s'.pings = s.pings)
    (hreports : s'.reports = s.reports ++ infos) (hpc : s.pc ≠ .closing)
    (hclosing : s'.pc = .closing) :
    log.act s s' =
      { log with
        reports := log.reports ++ infos.map fun info => ⟨s.now, info⟩
        closes := log.closes ++ [s.now] } := by
  simp [act, hpings, hreports, hpc, hclosing]

end KeepAliveLog

namespace KeepAliveLoop

variable {options : KeepAliveOptions} {s s' : KeepAliveLoop} {log : KeepAliveLog}

/-! ## Steps -/

/-- How much time passes in a step. A ping takes time of its own. -/
def passing (options : KeepAliveOptions) (s : KeepAliveLoop) : KeepAliveAction → ℕ
  | .elapse time => time
  | .input .serverTimer => s.lastReceived + options.serverTimeout - s.now
  | .input .pingTimer => s.nextPingAt - s.now
  | _ => 0

/-- What a step does to the deadlines and to what the task waits for, and how it times out. -/
inductive Step (options : KeepAliveOptions) (s : KeepAliveLoop) :
    KeepAliveAction → KeepAliveLoop → Prop where
  /-- Time may pass, and nothing comes, is sent, or is noticed. -/
  | quiet (a : KeepAliveAction) (s' : KeepAliveLoop)
      (hlog : ∀ log : KeepAliveLog, log.change s s' a = log)
    (hnow : s'.now = s.now + s.passing options a) (hreceived : s'.received = s.received)
    (hsent : s'.sent = s.sent) (hlast : s'.lastReceived = s.lastReceived)
    (hnext : s'.nextPingAt = s.nextPingAt) (hpings : s'.pings = s.pings)
    (hflag : s'.closeSignaled = true → s.closeSignaled = true)
    (hpc : s.pc.Calm s'.pc) : Step options s a s'
  | received : Step options s (.input .received) { s with received := true }
  | sent : Step options s (.input .sent) { s with sent := true }
  | signal (pc : ReceivePc) (reports : List TransportCloseInfo) (hflag : s.closeSignaled = false) :
    Step options s (.receive pc true reports)
      { s with receive := pc, closeSignaled := true, reports := reports }
  | noticeReceived (hselect : s.pc = .select) (hreceived : s.received = true) :
    Step options s (.select .received)
      { s with received := false, lastReceived := s.now, serverExpired := false, pc := .loop }
  | noticeSent (hselect : s.pc = .select) (hsent : s.sent = true) :
    Step options s (.select .sent)
      { s with
        sent := false
        nextPingAt := s.now + options.keepAliveInterval
        pingExpired := false
        pc := .loop }
  | timeout (hselect : s.pc = .select) (hdue : options.serverTimeout ≤ s.now - s.lastReceived) :
    Step options s (.select .serverTimer) { s with serverExpired := false, pc := .timedOut }
  | ping (took : ℕ) (hselect : s.pc = .select) (hdue : s.nextPingAt ≤ s.now) :
    Step options s (.select (.pingTimer took))
      { s with
        pings := s.pings + 1
        now := s.now + took
        nextPingAt := s.now + took + options.keepAliveInterval
        pingExpired := false
        pc := .loop }
  /-- The flag is not set, and the timeout is to be reported. -/
  | swap (hpc : s.pc = .timedOut) (hflag : s.closeSignaled = false) :
    Step options s .step { s with closeSignaled := true, pc := .reportTimeout }
  /-- The flag is set, and the transport is closed without a report. -/
  | leave (hpc : s.pc = .timedOut) (hflag : s.closeSignaled = true) :
    Step options s .step { s with pc := .closing }
  | report (hpc : s.pc = .reportTimeout) :
    Step options s .step
      { s with
        reports := s.reports ++ [⟨some serverTimeoutMessage, none, false⟩]
        pc := .closing }

/-- The steps the task takes by itself. -/
lemma step_of_step (h : s.next options .step = some s') : Step options s .step s' := by
  obtain ⟨t, ht, rfl⟩ := Option.map_eq_some_iff.mp h
  cases hpc : s.pc with
  | loop =>
    simp only [RuntimeTasks.keepAliveStep, tasks, hpc, Option.some.injEq] at ht
    subst ht
    have hcalm : (if s.signal.value then KeepAlivePc.ended else .select).timingOut = false := by
      split <;> rfl
    exact .quiet _ _ (fun _ => KeepAliveLog.act_of_calm rfl rfl hcalm) rfl rfl rfl rfl rfl rfl id
      (.turn (by rw [hpc]; rfl) hcalm)
  | select | ended => simp [RuntimeTasks.keepAliveStep, tasks, hpc] at ht
  | timedOut =>
    simp only [RuntimeTasks.keepAliveStep, tasks, hpc, Option.some.injEq] at ht
    subst ht
    cases hflag : s.closeSignaled with
    | true =>
      have hleave : Step options s .step _ := .leave hpc hflag
      rw [hflag] at hleave
      simpa [hflag] using hleave
    | false => exact .swap hpc hflag
  | reportTimeout =>
    simp only [RuntimeTasks.keepAliveStep, tasks, hpc, Option.some.injEq] at ht
    subst ht
    exact .report hpc
  | closing =>
    simp only [RuntimeTasks.keepAliveStep, tasks, hpc, Option.some.injEq] at ht
    subst ht
    exact .quiet _ _ (fun _ => KeepAliveLog.act_of_calm rfl rfl rfl) rfl rfl rfl rfl rfl rfl id
      (by rw [hpc]; exact .closed)

/-- A branch of `select!` is a step. -/
lemma step_of_select {branch : KeepAliveBranch} (hselect : s.pc = .select)
    (h : s.select options branch = some s') : Step options s (.select branch) s' := by
  have hcalm : ∀ {pc : KeepAlivePc}, pc.timingOut = false → s.pc.Calm pc :=
    fun hpc => .turn (by rw [hselect]; rfl) hpc
  cases branch with
  | shutdown =>
    obtain ⟨⟨ok, signal⟩, -, rfl⟩ := Option.map_eq_some_iff.mp h
    have hturn : (if ok && signal.value then KeepAlivePc.ended else .loop).timingOut = false := by
      split <;> rfl
    exact .quiet _ _ (fun _ => KeepAliveLog.act_of_calm rfl rfl hturn) rfl rfl rfl rfl rfl rfl id
      (hcalm hturn)
  | received =>
    obtain ⟨hreceived, hs'⟩ := Option.ite_none_right_eq_some.mp h
    cases hs'
    exact .noticeReceived hselect hreceived
  | sent =>
    obtain ⟨hsent, hs'⟩ := Option.ite_none_right_eq_some.mp h
    cases hs'
    exact .noticeSent hselect hsent
  | serverTimer =>
    obtain ⟨-, hs'⟩ := Option.ite_none_right_eq_some.mp h
    cases hs'
    by_cases hdue : options.serverTimeout ≤ s.now - s.lastReceived
    · rw [if_pos hdue]
      exact .timeout hselect hdue
    · rw [if_neg hdue]
      exact .quiet _ _ (fun _ => KeepAliveLog.act_of_calm rfl rfl rfl) rfl rfl rfl rfl rfl rfl id
        (hcalm rfl)
  | pingTimer took =>
    obtain ⟨-, hs'⟩ := Option.ite_none_right_eq_some.mp h
    by_cases hdue : s.nextPingAt ≤ s.now
    · rw [if_pos hdue] at hs'
      cases hs'
      exact .ping took hselect hdue
    · rw [if_neg hdue] at hs'
      cases hs'
      exact .quiet _ _ (fun _ => KeepAliveLog.act_of_calm rfl rfl rfl) rfl rfl rfl rfl rfl rfl id
        (hcalm rfl)

/-- Every step is one of these. -/
lemma step_of_next {a : KeepAliveAction} (h : s.next options a = some s') :
    Step options s a s' := by
  cases a with
  | input i =>
    cases i with
    | signal j =>
      obtain ⟨w, -, rfl⟩ := Option.map_eq_some_iff.mp h
      exact .quiet _ _ (fun _ => rfl) rfl rfl rfl rfl rfl rfl id (.stay _)
    | received =>
      cases h
      exact .received
    | sent =>
      cases h
      exact .sent
    | serverTimer =>
      cases h
      refine .quiet _ _ (fun _ => rfl) ?_ rfl rfl rfl rfl rfl id (.stay _)
      simp only [passing]
      omega
    | pingTimer =>
      cases h
      refine .quiet _ _ (fun _ => rfl) ?_ rfl rfl rfl rfl rfl id (.stay _)
      simp only [passing]
      omega
  | elapse time =>
    cases h
    exact .quiet _ _ (fun _ => rfl) rfl rfl rfl rfl rfl rfl id (.stay _)
  | receive pc closeSignaled reports =>
    cases h
    by_cases hset : (closeSignaled && !s.closeSignaled) = true
    · obtain ⟨rfl, hflag⟩ : closeSignaled = true ∧ s.closeSignaled = false := by simpa using hset
      exact .signal pc reports hflag
    · refine .quiet _ _ (fun _ => if_neg hset) rfl rfl rfl rfl rfl rfl (fun hset' => ?_) (.stay _)
      simpa [show closeSignaled = true from hset'] using hset
  | step => exact step_of_step h
  | select branch =>
    obtain ⟨hselect, h⟩ := select_of_next h
    exact step_of_select hselect h

/-- A task that has left its loop does not come back. -/
lemma Step.left {a : KeepAliveAction} (h : Step options s a s') (hleft : s.pc.hasLeft = true) :
    s'.pc.hasLeft = true := by
  cases h with
  | quiet _ _ _ _ _ _ _ _ _ _ hpc => exact hpc.left hleft
  | received | sent | signal => exact hleft
  | noticeReceived hselect | noticeSent hselect | timeout hselect | ping _ hselect =>
    rw [hselect] at hleft
    cases hleft
  | swap | leave | report => rfl

end KeepAliveLoop

end Signalrr.HubConnection
