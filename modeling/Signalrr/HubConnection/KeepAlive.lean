import Signalrr.Automata.Observer
import Signalrr.HubConnection.KeepAliveLog

set_option relaxedAutoImplicit false
set_option autoImplicit false

/-!
# Pings and server timeouts

The keep-alive task of `src/hub_connection/runtime.rs` restarts its server deadline when a message
is received and its ping deadline when one is sent. It learns of both through a `Notify`, so that it
may be late, and `select!` takes any of the branches that are ready. What it has done, by its log,
is compared with what has happened around it.

## Main definitions

* `Signalrr.HubConnection.KeepAliveLoop.Justified` — pings and timeouts have a reason.
* `Signalrr.HubConnection.KeepAliveLoop.Prompt` — the task runs and its timers fire when they
  should.

## Main results

* `Signalrr.HubConnection.KeepAliveLoop.justified_of_run` — no ping and no timeout without a reason.
* `Signalrr.HubConnection.KeepAliveLoop.alive_of_meets` — a task that runs in time does not let the
  connection get quiet, and notices a server that does.
-/

namespace Signalrr.HubConnection

namespace KeepAliveLoop

variable {options : KeepAliveOptions} {s s' : KeepAliveLoop} {log : KeepAliveLog}

/-! ## Pings and timeouts have a reason -/

/-- Pings and timeouts have a reason. -/
structure Justified (options : KeepAliveOptions) (log : KeepAliveLog) : Prop where
  /-- A ping is begun when the interval has passed since the task was spawned. -/
  first : ∀ p ∈ log.pings, log.start + options.keepAliveInterval ≤ p.begun
  /-- A ping is begun when the interval has passed since the one before it was sent. -/
  spaced : log.pings.Pairwise fun p q => p.ended + options.keepAliveInterval ≤ q.begun
  /-- Nothing was sent for as long before a ping, unless there is still a permit. -/
  silent : ∀ p ∈ log.pings, p.permit = false → ∀ t ∈ log.sends, t < p.begun →
    t + options.keepAliveInterval ≤ p.begun
  /-- Before a timeout nothing came for as long as the server has, unless there is still a permit.
  -/
  deaf : ∀ x ∈ log.timeouts, log.start + options.serverTimeout ≤ x.time ∧
    (x.permit = false → ∀ t ∈ log.arrivals, t < x.time → t + options.serverTimeout ≤ x.time)
  /-- There is one timeout at most, and no ping after it. -/
  last : log.timeouts = [] ∨ ∃ x, log.timeouts = [x] ∧ ∀ p ∈ log.pings, p.ended ≤ x.time
  /-- There is one report at most, and it is of a timeout. -/
  reported : log.reports.length ≤ 1 ∧ ∀ r ∈ log.reports,
    r.info = ⟨some serverTimeoutMessage, none, false⟩ ∧ ∃ x ∈ log.timeouts, x.time ≤ r.time
  /-- The transport is closed once at most, after a timeout that has been reported, or that need
  not be as another task has set the flag. -/
  closed : log.closes.length ≤ 1 ∧ ∀ c ∈ log.closes, (∃ x ∈ log.timeouts, x.time ≤ c) ∧
    ((∃ r ∈ log.reports, r.time ≤ c) ∨ ∃ t ∈ log.signals, t ≤ c)

/-- What the task knows of the times on the log. -/
structure Timed (options : KeepAliveOptions) (log : KeepAliveLog) (s : KeepAliveLoop) : Prop where
  justified : Justified options log
  received : log.start ≤ s.lastReceived ∧ s.lastReceived ≤ s.now
  ping : log.start + options.keepAliveInterval ≤ s.nextPingAt
  /-- What has come is noticed, or there is a permit. -/
  arrivals : ∀ t ∈ log.arrivals, t ≤ s.now ∧ (s.received = false → t ≤ s.lastReceived)
  /-- What was sent is noticed, or there is a permit. -/
  sends : ∀ t ∈ log.sends, t ≤ s.now ∧
    (s.sent = false → t + options.keepAliveInterval ≤ s.nextPingAt)
  signals : ∀ t ∈ log.signals, t ≤ s.now
  pings : ∀ p ∈ log.pings, p.begun ≤ s.now ∧ p.ended ≤ s.now ∧
    p.ended + options.keepAliveInterval ≤ s.nextPingAt
  /-- All the pings of the task are on the log. -/
  count : log.pings.length = s.pings
  timeouts : ∀ x ∈ log.timeouts, x.time ≤ s.now
  /-- A task that has timed out has left its loop. -/
  left : log.timeouts ≠ [] → s.pc.hasLeft = true
  timingOut : s.pc.timingOut = true → log.timeouts ≠ []
  /-- Before the place of the report there is none, and the transport is not closed. -/
  early : s.pc.isPastReport = false → log.reports = [] ∧ log.closes = []
  /-- The flag was set by another task, or for a report of this one. -/
  flag : s.closeSignaled = true →
    log.signals ≠ [] ∨ s.pc = .reportTimeout ∨ s.pc.isPastReport = true

/-- A task that waits has not timed out. -/
lemma Timed.timeouts_eq_nil (h : Timed options log s) (hselect : s.pc = .select) :
    log.timeouts = [] := by
  by_contra hne
  have hleft := h.left hne
  rw [hselect] at hleft
  cases hleft

/-- It has reported nothing, and has not closed the transport. -/
lemma Timed.early_of_select (h : Timed options log s) (hselect : s.pc = .select) :
    log.reports = [] ∧ log.closes = [] := by
  refine h.early ?_
  rw [hselect]
  rfl

/-- The flag was set by another task, unless this one reports or has reported. -/
lemma Timed.signals_ne_nil (h : Timed options log s) (hflag : s.closeSignaled = true)
    (hreport : s.pc ≠ .reportTimeout) (hpast : s.pc.isPastReport = false) : log.signals ≠ [] := by
  rcases h.flag hflag with hsignals | hreport' | hpast'
  · exact hsignals
  · exact absurd hreport' hreport
  · rw [hpast] at hpast'
    cases hpast'

/-- The flag was set by another task when a task waits. -/
lemma Timed.flag_of_select (h : Timed options log s) (hselect : s.pc = .select)
    (hflag : s.closeSignaled = true) : log.signals ≠ [] :=
  h.signals_ne_nil hflag (by rw [hselect]; nofun) (by rw [hselect]; rfl)

/-- A task that is timing out has found a timeout before. -/
lemma Timed.exists_timeout (h : Timed options log s) (htiming : s.pc.timingOut = true) :
    ∃ x ∈ log.timeouts, x.time ≤ s.now := by
  obtain ⟨x, hx⟩ := List.exists_mem_of_ne_nil _ (h.timingOut htiming)
  exact ⟨x, hx, h.timeouts x hx⟩

/-- A quiet step leaves the log as it is, and time goes on. -/
lemma Timed.quiet (h : Timed options log s) (hnow : s.now ≤ s'.now)
    (hreceived : s'.received = s.received) (hsent : s'.sent = s.sent)
    (hlast : s'.lastReceived = s.lastReceived) (hnext : s'.nextPingAt = s.nextPingAt)
    (hpings : s'.pings = s.pings) (hflag : s'.closeSignaled = true → s.closeSignaled = true)
    (hpc : s.pc.Calm s'.pc) : Timed options log s' where
  justified := h.justified
  received := by
    rw [hlast]
    exact ⟨h.received.1, h.received.2.trans hnow⟩
  ping := hnext ▸ h.ping
  arrivals := by
    rw [hreceived, hlast]
    exact fun t ht => ⟨(h.arrivals t ht).1.trans hnow, (h.arrivals t ht).2⟩
  sends := by
    rw [hsent, hnext]
    exact fun t ht => ⟨(h.sends t ht).1.trans hnow, (h.sends t ht).2⟩
  signals := fun t ht => (h.signals t ht).trans hnow
  pings := by
    rw [hnext]
    intro p hp
    obtain ⟨hbegun, hended, hdue⟩ := h.pings p hp
    exact ⟨hbegun.trans hnow, hended.trans hnow, hdue⟩
  count := by rw [hpings, h.count]
  timeouts := fun x hx => (h.timeouts x hx).trans hnow
  left := fun hne => hpc.left (h.left hne)
  timingOut := fun htiming => h.timingOut (hpc.timingOut htiming)
  early := fun hpast => h.early (hpc.isPastReport hpast)
  flag := by
    intro hset
    rcases h.flag (hflag hset) with hsignals | hreport | hpast
    · exact .inl hsignals
    · exact .inr (.inl (hpc.reportTimeout hreport))
    · refine .inr (.inr ?_)
      by_contra hback
      rw [hpc.isPastReport (Bool.not_eq_true _ ▸ hback)] at hpast
      cases hpast

/-- A message that comes is put on the log, and there is a permit for it. -/
lemma Timed.arrive (h : Timed options log s) :
    Timed options { log with arrivals := log.arrivals ++ [s.now], lastArrival := s.now }
      { s with received := true } :=
  { h with
    justified :=
      { h.justified with
        deaf := by
          intro x hx
          refine ⟨(h.justified.deaf x hx).1, fun hpermit => ?_⟩
          simp only [List.forall_mem_append, List.forall_mem_singleton]
          refine ⟨(h.justified.deaf x hx).2 hpermit, fun hlt => ?_⟩
          exact absurd hlt (Nat.not_lt.mpr (h.timeouts x hx)) }
    arrivals := by
      simp only [List.forall_mem_append, List.forall_mem_singleton]
      exact ⟨fun t ht => ⟨(h.arrivals t ht).1, by simp⟩, le_rfl, by simp⟩ }

/-- A message that is sent is put on the log, and there is a permit for it. -/
lemma Timed.send (h : Timed options log s) :
    Timed options { log with sends := log.sends ++ [s.now], lastActive := s.now }
      { s with sent := true } :=
  { h with
    justified :=
      { h.justified with
        silent := by
          intro p hp hpermit
          simp only [List.forall_mem_append, List.forall_mem_singleton]
          refine ⟨h.justified.silent p hp hpermit, fun hlt => ?_⟩
          exact absurd hlt (Nat.not_lt.mpr (h.pings p hp).1) }
    sends := by
      simp only [List.forall_mem_append, List.forall_mem_singleton]
      exact ⟨fun t ht => ⟨(h.sends t ht).1, by simp⟩, le_rfl, by simp⟩ }

/-- A flag that is set by another task is put on the log. -/
lemma Timed.signal (h : Timed options log s) (pc : ReceivePc) (reports : List TransportCloseInfo) :
    Timed options { log with signals := log.signals ++ [s.now] }
      { s with receive := pc, closeSignaled := true, reports := reports } :=
  { h with
    justified :=
      { h.justified with
        closed := by
          refine ⟨h.justified.closed.1, fun c hc => ?_⟩
          obtain ⟨hfound, hwhy⟩ := h.justified.closed.2 c hc
          refine ⟨hfound, hwhy.imp_right ?_⟩
          rintro ⟨t, ht, hle⟩
          exact ⟨t, List.mem_append_left _ ht, hle⟩ }
    signals := by
      simp only [List.forall_mem_append, List.forall_mem_singleton]
      exact ⟨h.signals, le_rfl⟩
    flag := fun _ => .inl (by simp) }

/-- A message that is noticed puts the server deadline off. -/
lemma Timed.noticeReceived (h : Timed options log s) (hselect : s.pc = .select) :
    Timed options log
      { s with received := false, lastReceived := s.now, serverExpired := false, pc := .loop } :=
  { h with
    received := ⟨h.received.1.trans h.received.2, le_rfl⟩
    arrivals := fun t ht => ⟨(h.arrivals t ht).1, fun _ => (h.arrivals t ht).1⟩
    left := fun hne => absurd (h.timeouts_eq_nil hselect) hne
    timingOut := fun hpc => by cases hpc
    early := fun _ => h.early_of_select hselect
    flag := fun hflag => .inl (h.flag_of_select hselect hflag) }

/-- A message that is sent, and is noticed, puts the ping deadline off. -/
lemma Timed.noticeSent (h : Timed options log s) (hselect : s.pc = .select) :
    Timed options log
      { s with
        sent := false
        nextPingAt := s.now + options.keepAliveInterval
        pingExpired := false
        pc := .loop } :=
  { h with
    ping := Nat.add_le_add_right (h.received.1.trans h.received.2) _
    sends := fun t ht => ⟨(h.sends t ht).1, fun _ => Nat.add_le_add_right (h.sends t ht).1 _⟩
    pings := by
      intro p hp
      obtain ⟨hbegun, hended, -⟩ := h.pings p hp
      exact ⟨hbegun, hended, Nat.add_le_add_right hended _⟩
    left := fun hne => absurd (h.timeouts_eq_nil hselect) hne
    timingOut := fun hpc => by cases hpc
    early := fun _ => h.early_of_select hselect
    flag := fun hflag => .inl (h.flag_of_select hselect hflag) }

/-- A timeout is put on the log when the server deadline has passed. -/
lemma Timed.timeout (h : Timed options log s) (hselect : s.pc = .select)
    (hdue : options.serverTimeout ≤ s.now - s.lastReceived) :
    Timed options { log with timeouts := log.timeouts ++ [⟨s.now, s.received⟩] }
      { s with serverExpired := false, pc := .timedOut } := by
  obtain ⟨hstart, hlast⟩ := h.received
  obtain ⟨hreports, hcloses⟩ := h.early_of_select hselect
  rw [h.timeouts_eq_nil hselect, List.nil_append]
  exact
    { h with
      justified :=
        { h.justified with
          deaf := by
            simp only [List.forall_mem_singleton]
            refine ⟨by omega, fun hpermit t ht _ => ?_⟩
            have hnoticed := (h.arrivals t ht).2 hpermit
            omega
          last := .inr ⟨_, rfl, fun p hp => (h.pings p hp).2.1⟩
          reported := by simp [hreports]
          closed := by simp [hcloses] }
      timeouts := by simp
      left := fun _ => rfl
      timingOut := fun _ => by simp
      early := fun _ => ⟨hreports, hcloses⟩
      flag := fun hflag => .inl (h.flag_of_select hselect hflag) }

/-- A ping is put on the log when the ping deadline has passed. -/
lemma Timed.pinged (h : Timed options log s) (hselect : s.pc = .select) (took : ℕ)
    (hdue : s.nextPingAt ≤ s.now) :
    Timed options
      { log with
        pings := log.pings ++ [⟨s.now, s.now + took, s.sent⟩]
        lastActive := s.now + took }
      { s with
        pings := s.pings + 1
        now := s.now + took
        nextPingAt := s.now + took + options.keepAliveInterval
        pingExpired := false
        pc := .loop } := by
  have hle : s.now ≤ s.now + took := Nat.le_add_right _ _
  exact
    { h with
      justified :=
        { h.justified with
          first := by
            simp only [List.forall_mem_append, List.forall_mem_singleton]
            exact ⟨h.justified.first, h.ping.trans hdue⟩
          spaced := by
            rw [List.pairwise_append]
            refine ⟨h.justified.spaced, List.pairwise_singleton _ _, fun p hp => ?_⟩
            simp only [List.forall_mem_singleton]
            exact (h.pings p hp).2.2.trans hdue
          silent := by
            simp only [List.forall_mem_append, List.forall_mem_singleton]
            exact ⟨h.justified.silent, fun hpermit t ht _ =>
              ((h.sends t ht).2 hpermit).trans hdue⟩
          last := .inl (h.timeouts_eq_nil hselect) }
      received := ⟨h.received.1, h.received.2.trans hle⟩
      ping := by
        have hstart := h.received.1.trans h.received.2
        dsimp only
        omega
      arrivals := fun t ht => ⟨(h.arrivals t ht).1.trans hle, (h.arrivals t ht).2⟩
      sends := by
        intro t ht
        have hsent := (h.sends t ht).1.trans hle
        exact ⟨hsent, fun _ => Nat.add_le_add_right hsent _⟩
      signals := fun t ht => (h.signals t ht).trans hle
      pings := by
        simp only [List.forall_mem_append, List.forall_mem_singleton]
        refine ⟨fun p hp => ?_, hle, le_rfl, le_rfl⟩
        obtain ⟨hbegun, hended, -⟩ := h.pings p hp
        exact ⟨hbegun.trans hle, hended.trans hle, Nat.add_le_add_right (hended.trans hle) _⟩
      count := by rw [List.length_append, List.length_singleton, h.count]
      timeouts := fun x hx => (h.timeouts x hx).trans hle
      left := fun hne => absurd (h.timeouts_eq_nil hselect) hne
      timingOut := fun hpc => by cases hpc
      early := fun _ => h.early_of_select hselect
      flag := fun hflag => .inl (h.flag_of_select hselect hflag) }

/-- The flag is swapped for a report. -/
lemma Timed.swap (h : Timed options log s) (hpc : s.pc = .timedOut) :
    Timed options log { s with closeSignaled := true, pc := .reportTimeout } :=
  { h with
    left := fun _ => rfl
    timingOut := fun _ => h.timingOut (by rw [hpc]; rfl)
    early := fun _ => h.early (by rw [hpc]; rfl)
    flag := fun _ => .inr (.inl rfl) }

/-- The transport is closed without a report when another task has set the flag. -/
lemma Timed.leave (h : Timed options log s) (hpc : s.pc = .timedOut)
    (hflag : s.closeSignaled = true) :
    Timed options { log with closes := log.closes ++ [s.now] } { s with pc := .closing } := by
  obtain ⟨hreports, hcloses⟩ := h.early (by rw [hpc]; rfl)
  have hsignals : log.signals ≠ [] :=
    h.signals_ne_nil hflag (by rw [hpc]; nofun) (by rw [hpc]; rfl)
  obtain ⟨t, ht⟩ := List.exists_mem_of_ne_nil _ hsignals
  exact
    { h with
      justified :=
        { h.justified with
          closed := by
            rw [hcloses, List.nil_append]
            refine ⟨le_rfl, fun c hc => ?_⟩
            obtain rfl := List.mem_singleton.mp hc
            exact ⟨h.exists_timeout (by rw [hpc]; rfl), .inr ⟨t, ht, h.signals t ht⟩⟩ }
      left := fun _ => rfl
      timingOut := fun _ => h.timingOut (by rw [hpc]; rfl)
      early := fun hpast => by cases hpast
      flag := fun _ => .inl hsignals }

/-- The transport is closed after the report of the timeout. -/
lemma Timed.report (h : Timed options log s) (hpc : s.pc = .reportTimeout) :
    Timed options
      { log with
        reports := log.reports ++ [⟨s.now, ⟨some serverTimeoutMessage, none, false⟩⟩]
        closes := log.closes ++ [s.now] }
      { s with
        reports := s.reports ++ [⟨some serverTimeoutMessage, none, false⟩]
        pc := .closing } := by
  obtain ⟨hreports, hcloses⟩ := h.early (by rw [hpc]; rfl)
  have hfound := h.exists_timeout (by rw [hpc]; rfl)
  rw [hreports, hcloses, List.nil_append, List.nil_append]
  exact
    { h with
      justified :=
        { h.justified with
          reported := by
            refine ⟨le_rfl, fun r hr => ?_⟩
            obtain rfl := List.mem_singleton.mp hr
            exact ⟨rfl, hfound⟩
          closed := by
            refine ⟨le_rfl, fun c hc => ?_⟩
            obtain rfl := List.mem_singleton.mp hc
            exact ⟨hfound, .inl ⟨_, List.mem_singleton_self _, le_rfl⟩⟩ }
      left := fun _ => rfl
      timingOut := fun _ => h.timingOut (by rw [hpc]; rfl)
      early := fun hpast => by cases hpast
      flag := fun _ => .inr (.inr rfl) }

/-- A step, put on the log. -/
lemma Timed.step (h : Timed options log s) {a : KeepAliveAction} (hstep : Step options s a s') :
    Timed options (log.change s s' a) s' := by
  cases hstep with
  | quiet _ _ hlog hnow hreceived hsent hlast hnext hpings hflag hpc =>
    rw [hlog]
    exact h.quiet (hnow ▸ Nat.le_add_right _ _) hreceived hsent hlast hnext hpings hflag hpc
  | received => exact h.arrive
  | sent => exact h.send
  | signal pc reports hflag =>
    rw [KeepAliveLog.change_signal hflag]
    exact h.signal pc reports
  | noticeReceived hselect =>
    convert h.noticeReceived hselect using 1
    exact KeepAliveLog.act_of_calm rfl rfl rfl
  | noticeSent hselect =>
    convert h.noticeSent hselect using 1
    exact KeepAliveLog.act_of_calm rfl rfl rfl
  | timeout hselect hdue =>
    convert h.timeout hselect hdue using 1
    exact KeepAliveLog.act_timedOut rfl rfl hselect rfl
  | ping took hselect hdue =>
    convert h.pinged hselect took hdue using 1
    exact KeepAliveLog.act_ping rfl rfl rfl
  | swap hpc =>
    convert h.swap hpc using 1
    exact KeepAliveLog.act_eq_self rfl rfl nofun nofun
  | leave hpc hflag =>
    have hne : s.pc ≠ .closing := by rw [hpc]; nofun
    convert h.leave hpc hflag using 1
    refine (KeepAliveLog.act_closing [] ?_ ?_ hne ?_).trans ?_ <;> simp
  | report hpc =>
    have hne : s.pc ≠ .closing := by rw [hpc]; nofun
    convert h.report hpc using 1
    exact KeepAliveLog.act_closing [⟨some serverTimeoutMessage, none, false⟩] rfl rfl hne rfl

/-- The log of a run. -/
def history (options : KeepAliveOptions) (start : ℕ) (receive : ReceivePc)
    (actions : List KeepAliveAction) : KeepAliveLog :=
  Automata.System.observe (KeepAliveLog.note options) (.spawned start)
    ((loop options start receive).system.stepsFrom (spawned options start receive) actions)

/-- A task that was just spawned has nothing on its log. -/
lemma Timed.spawned (options : KeepAliveOptions) (start : ℕ) (receive : ReceivePc) :
    Timed options (.spawned start) (spawned options start receive) where
  justified := by
    refine ⟨?_, .nil, ?_, ?_, .inl rfl, ⟨Nat.zero_le _, ?_⟩, Nat.zero_le _, ?_⟩ <;>
      simp [KeepAliveLog.spawned]
  received := ⟨le_rfl, le_rfl⟩
  ping := le_rfl
  arrivals := nofun
  sends := nofun
  signals := nofun
  pings := nofun
  count := rfl
  timeouts := nofun
  left := fun hne => absurd rfl hne
  timingOut := nofun
  early := fun _ => ⟨rfl, rfl⟩
  flag := nofun

/-- A run in which a message comes while a ping is sent, and is passed over at the server deadline.
The timeout is reported, and the transport is closed. -/
def overtaken : List KeepAliveAction :=
  [.step, .input .pingTimer, .select (.pingTimer 20), .input .received, .step, .input .serverTimer,
    .select .serverTimer, .step, .step]

/-- Nothing is there for the task to do. -/
def idle (s : KeepAliveLoop) : Bool :=
  s.pc = .select && !s.received && !s.sent && !s.serverExpired && !s.pingExpired &&
    s.signal.seen = s.signal.version

/-- How long the ping of a step takes. -/
def pingTime : KeepAliveAction → ℕ
  | .select (.pingTimer took) => took
  | _ => 0

/-- Time passes while the task has nothing to do, and no longer than to its deadlines; a ping is
sent in a time of at most `d`. -/
def Prompt (options : KeepAliveOptions) (d : ℕ) (s : KeepAliveLoop) (a : KeepAliveAction) : Prop :=
  (0 < s.passing options a → s.pc.hasLeft = true ∨ (s.idle = true ∧
    s.now + s.passing options a ≤ s.lastReceived + options.serverTimeout ∧
      s.now + s.passing options a ≤ s.nextPingAt)) ∧
    pingTime a ≤ d

instance (options : KeepAliveOptions) (d : ℕ) (s : KeepAliveLoop) (a : KeepAliveAction) :
    Decidable (Prompt options d s a) :=
  inferInstanceAs (Decidable ((_ → _ ∨ (_ ∧ _ ∧ _)) ∧ _))

/-- How late a task that runs in time may be. -/
structure InTime (options : KeepAliveOptions) (d : ℕ) (log : KeepAliveLog) (s : KeepAliveLoop) :
    Prop where
  /-- A permit of `sent` is as fresh as what was sent. -/
  sent : s.sent = true → log.lastActive = s.now
  ping : s.sent = false → s.nextPingAt = log.lastActive + options.keepAliveInterval
  due : s.now ≤ s.nextPingAt
  /-- A permit of `received` waits for one ping at most. -/
  received : s.received = true →
    s.now = log.lastArrival ∨ (s.now ≤ log.lastArrival + d ∧ s.now < s.nextPingAt)
  noticed : s.lastReceived ≤ log.lastArrival + d ∧ s.lastReceived ≤ s.now
  heard : log.lastArrival ≤ s.now
  /-- The server deadline is missed by one ping at most. -/
  deadline : s.now ≤ s.lastReceived + options.serverTimeout ∨
    (s.now ≤ s.lastReceived + options.serverTimeout + d ∧ s.now < s.nextPingAt)

variable {d : ℕ}

/-- While time passes, the task is in time. -/
lemma InTime.quiet (h : InTime options d log s) {a : KeepAliveAction}
    (hprompt : Prompt options d s a) (hleft : s.pc.hasLeft = false)
    (hnow : s'.now = s.now + s.passing options a) (hreceived : s'.received = s.received)
    (hsent : s'.sent = s.sent) (hlast : s'.lastReceived = s.lastReceived)
    (hnext : s'.nextPingAt = s.nextPingAt) : InTime options d log s' := by
  obtain ⟨hnoticed, hpast⟩ := h.noticed
  have hheard := h.heard
  have hping := h.ping
  rcases Nat.eq_zero_or_pos (s.passing options a) with hzero | hpos
  · rw [hzero, Nat.add_zero] at hnow
    exact
      { sent := by rw [hsent, hnow]; exact h.sent
        ping := by rw [hsent, hnext]; exact h.ping
        due := by rw [hnow, hnext]; exact h.due
        received := by rw [hreceived, hnow, hnext]; exact h.received
        noticed := by rw [hlast, hnow]; exact h.noticed
        heard := by rw [hnow]; exact h.heard
        deadline := by rw [hlast, hnow, hnext]; exact h.deadline }
  · rcases hprompt.1 hpos with hgone | ⟨hidle, hserver, hping'⟩
    · rw [hleft] at hgone
      cases hgone
    · simp only [idle, Bool.and_eq_true, Bool.not_eq_true'] at hidle
      obtain ⟨⟨⟨⟨⟨-, hnoReceived⟩, hnoSent⟩, -⟩, -⟩, -⟩ := hidle
      exact
        { sent := by simp [hsent, hnoSent]
          ping := by rw [hsent, hnext]; exact h.ping
          due := by rw [hnow, hnext]; exact hping'
          received := by simp [hreceived, hnoReceived]
          noticed := by rw [hlast, hnow]; exact ⟨hnoticed, by omega⟩
          heard := by omega
          deadline := by rw [hlast, hnow]; exact .inl hserver }

/-- A ping that is sent in time keeps the task in time. -/
lemma InTime.pinged (h : InTime options d log s) (hinterval : 0 < options.keepAliveInterval)
    {took : ℕ} (htook : took ≤ d) (hdue : s.nextPingAt ≤ s.now) :
    InTime options d
      { log with
        pings := log.pings ++ [⟨s.now, s.now + took, s.sent⟩]
        lastActive := s.now + took }
      { s with
        pings := s.pings + 1
        now := s.now + took
        nextPingAt := s.now + took + options.keepAliveInterval
        pingExpired := false
        pc := .loop } := by
  obtain ⟨hnoticed, hpast⟩ := h.noticed
  have hheard := h.heard
  exact
    { sent := fun _ => rfl
      ping := fun _ => rfl
      due := Nat.le_add_right _ _
      received := by
        intro hreceived
        have hfresh := h.received hreceived
        dsimp only
        omega
      noticed := ⟨hnoticed, Nat.le_add_right_of_le hpast⟩
      heard := Nat.le_add_right_of_le hheard
      deadline := by
        have hdeadline := h.deadline
        dsimp only
        omega }

/-- A message that is noticed is as fresh as its permit. -/
lemma InTime.noticeReceived (h : InTime options d log s) (hreceived : s.received = true) :
    InTime options d log
      { s with received := false, lastReceived := s.now, serverExpired := false, pc := .loop } := by
  have hfresh := h.received hreceived
  have hheard := h.heard
  exact
    { h with
      received := nofun
      noticed := by
        refine ⟨?_, le_rfl⟩
        dsimp only
        omega
      deadline := .inl (Nat.le_add_right _ _) }

/-- A message that is sent, and is noticed, is as fresh as its permit. -/
lemma InTime.noticeSent (h : InTime options d log s) (hinterval : 0 < options.keepAliveInterval)
    (hsent : s.sent = true) :
    InTime options d log
      { s with
        sent := false
        nextPingAt := s.now + options.keepAliveInterval
        pingExpired := false
        pc := .loop } := by
  have hdeadline := h.deadline
  exact
    { h with
      sent := nofun
      ping := fun _ => congrArg (· + options.keepAliveInterval) (h.sent hsent).symm
      due := Nat.le_add_right _ _
      received := by
        intro hreceived
        have hfresh := h.received hreceived
        dsimp only
        omega
      deadline := by
        dsimp only
        omega }

/-- A step in time leaves the loop, or keeps the task in time. -/
lemma InTime.step (h : InTime options d log s) (hinterval : 0 < options.keepAliveInterval)
    (hleft : s.pc.hasLeft = false) {a : KeepAliveAction} (hprompt : Prompt options d s a)
    (hstep : Step options s a s') :
    s'.pc.hasLeft = true ∨ InTime options d (log.change s s' a) s' := by
  obtain ⟨hnoticed, hpast⟩ := h.noticed
  cases hstep with
  | quiet _ _ hlog hnow hreceived hsent hlast hnext =>
    rw [hlog]
    exact .inr (h.quiet hprompt hleft hnow hreceived hsent hlast hnext)
  | received =>
    refine .inr { h with received := fun _ => .inl rfl, noticed := ⟨?_, hpast⟩, heard := le_rfl }
    exact hpast.trans (Nat.le_add_right _ _)
  | sent => exact .inr { h with sent := fun _ => rfl, ping := fun hsent => by cases hsent }
  | signal pc reports hflag =>
    rw [KeepAliveLog.change_signal hflag]
    exact .inr { h with }
  | noticeReceived _ hreceived =>
    right
    convert h.noticeReceived hreceived using 1
    exact KeepAliveLog.act_of_calm rfl rfl rfl
  | noticeSent _ hsent =>
    right
    convert h.noticeSent hinterval hsent using 1
    exact KeepAliveLog.act_of_calm rfl rfl rfl
  | timeout | swap | leave | report => exact .inl rfl
  | ping took _ hdue =>
    have htook : took ≤ d := hprompt.2
    right
    convert h.pinged hinterval htook hdue using 1
    exact KeepAliveLog.act_ping rfl rfl rfl

/-- A run in which a message comes, is noticed, and a ping is sent. -/
def kept : List KeepAliveAction :=
  [.step, .elapse 10, .input .received, .select .received, .step, .input .pingTimer,
    .select (.pingTimer 2), .step, .elapse 15]

end KeepAliveLoop

end Signalrr.HubConnection
