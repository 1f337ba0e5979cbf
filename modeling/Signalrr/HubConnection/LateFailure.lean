import Signalrr.HubConnection.StatefulSession

set_option relaxedAutoImplicit false
set_option autoImplicit false

/-!
# Late failures on an old transport

`resume_transport` starts the receive task of the reopened transport and only then waits for the
write lock of `runtime`, which the sends in flight on the old transport hold for reading. A write of
such a send that fails calls `disconnected`, also when the peer's `Sequence` has already been
processed on the reopened transport.

## Main definitions

* `Signalrr.HubConnection.StatefulSession.Undisturbed` — after the peer's `Sequence` the buffer does
  not wait for another one.
* `Signalrr.HubConnection.StatefulSession.lateFailure` — the step that disturbs it.

## Main results

* `Signalrr.HubConnection.StatefulSession.undisturbed_of_meets` — nothing else disturbs the reopened
  transport.
* `Signalrr.HubConnection.StatefulSession.not_undisturbed_of_lateFailure` — a late failure always
  does.
* `Signalrr.HubConnection.StatefulSession.late_failure_disturbs` — and it can happen.
-/

namespace Signalrr.HubConnection

open Hub

namespace StatefulSession

/-- While the current transport is up and no send on it has failed, the buffer does not wait for a
`Sequence` once one has been processed on it. -/
def Undisturbed (s : StatefulSession) : Prop :=
  s.current.isSome = true → s.sequenced = true → s.failedSend = false →
    s.buffer.waitForSequenceMessage = false

/-- A write to an older transport fails after a `Sequence` has been processed on the current one,
which is up and on which no send has failed. -/
def lateFailure (cfg : LinkConfig) (s : StatefulSession) : Action → Bool
  | .sendWrite i outcome =>
    match s.sends[i]? with
    | some (.writing t frame) =>
      !(sendSerialized cfg.transferFormat (fun _ => outcome) frame.payload).isOk &&
        t != s.opened && s.current.isSome && s.sequenced && !s.failedSend
    | _ => false
  | _ => false

/-- The condition on a step. -/
def NoLateFailure (cfg : LinkConfig) (s : StatefulSession) (a : Action) : Prop :=
  s.lateFailure cfg a = false

instance (cfg : LinkConfig) (s : StatefulSession) (a : Action) :
    Decidable (s.NoLateFailure cfg a) :=
  inferInstanceAs (Decidable (s.lateFailure cfg a = false))

/-- A write that fails disconnects the buffer. -/
lemma sendWrite_of_error {cfg : LinkConfig} {s : StatefulSession} {i t : ℕ} {f : Frame}
    {outcome : Except Error Unit}
    (h : (sendSerialized cfg.transferFormat (fun _ => outcome) f.payload).isOk = false) :
    s.sendWrite cfg i t f outcome = { s with
      buffer := s.buffer.disconnected
      sends := s.sends.set i .returned
      failedSend := s.failedSend || t = s.opened } := by
  unfold sendWrite
  split
  · rename_i hw
    rw [hw] at h
    cases h
  · rfl

/-- `resend` leaves the receiving side of the buffer alone. -/
lemma resend_waitForSequenceMessage (cfg : LinkConfig) (s : StatefulSession)
    (outcome : ℕ → Except Error Unit) :
    (s.resend cfg outcome).buffer.waitForSequenceMessage = s.buffer.waitForSequenceMessage := by
  have hbuf : (s.buffer.resend cfg.protocol cfg.transferFormat fun k _ =>
      outcome k).buffer.waitForSequenceMessage = s.buffer.waitForSequenceMessage := by
    unfold MessageBuffer.resend
    split
    · rfl
    · split <;> rfl
  unfold resend
  dsimp only
  split <;> exact hbuf

/-- **One step** under the condition.

**Proof sketch.** The flag is set by `disconnected` only. `resume_transport` calls it when there is
no current transport, and forgets the `Sequence` when it opens a new one. A send calls it when its
write fails: on the newest transport that is a failed send, on an older one the condition
applies. -/
lemma Undisturbed.step {cfg : LinkConfig} {s s' : StatefulSession} {a : Action}
    (h : s.Undisturbed) (hok : s.NoLateFailure cfg a) (hstep : s.next cfg a = some s') :
    s'.Undisturbed := by
  cases step_of_next hstep with
  | drop => exact fun hcur => (by cases hcur)
  | receive t m hcur =>
    intro _ hseq hfail
    show (s.buffer.dispatch m).1.waitForSequenceMessage = false
    obtain ⟨-, -, -, -, hwait⟩ := s.buffer.dispatch_spec m
    rw [hwait]
    rcases Bool.or_eq_true_iff.mp hseq with hseq | hresets
    · rw [h (by rw [hcur]; rfl) hseq hfail, Bool.false_and]
    · rw [hresets, Bool.not_true, Bool.and_false]
  | sendStore i t f w hi =>
    intro hcur hseq hfail
    show (s.buffer.enqueue f w).waitForSequenceMessage = false
    rw [MessageBuffer.enqueue_waitForSequenceMessage]
    exact h hcur hseq hfail
  | sendWrite i t f outcome hi =>
    cases hw : (sendSerialized cfg.transferFormat (fun _ => outcome) f.payload).isOk with
    | true =>
      unfold sendWrite
      split
      · exact h
      · rename_i hw'
        rw [hw'] at hw
        cases hw
    | false =>
      rw [sendWrite_of_error hw]
      intro hcur hseq hfail
      obtain ⟨hfail, ht⟩ := Bool.or_eq_false_iff.mp hfail
      have hlate : s.lateFailure cfg (.sendWrite i outcome) = true := by
        have hcur : s.current.isSome = true := hcur
        have hseq : s.sequenced = true := hseq
        simp only [decide_eq_false_iff_not] at ht
        simp [lateFailure, hi, hw, ht, hcur, hseq, hfail]
      rw [NoLateFailure, hlate] at hok
      cases hok
  | resumeStart hresume hcur =>
    intro hcur'
    rw [show s.current = none from hcur] at hcur'
    cases hcur'
  | resumeReopen hresume => exact fun _ hseq => (by cases hseq)
  | resumeResend outcome hresume =>
    have hwait := s.resend_waitForSequenceMessage cfg outcome
    intro hcur hseq hfail
    rw [hwait]
    unfold resend at hcur hseq hfail
    dsimp only at hcur hseq hfail
    split at hfail
    · rename_i hres
      rw [hres] at hcur hseq
      exact h hcur hseq hfail
    · cases hfail
  | ackWrite k t outcome hk => exact h
  | _ => exact h

/-- **A late failure on the old transport does not disturb the resumed one** in a run in which no
write to an older transport fails after the peer's `Sequence` has been processed. -/
theorem undisturbed_of_meets (cfg : LinkConfig) (bufferSize : ℕ) {as : List Action}
    {s : StatefulSession} (hrun : (system cfg bufferSize).run as = some s)
    (hm : (system cfg bufferSize).Meets (NoLateFailure cfg) as) : s.Undisturbed := by
  have hinit : (system cfg bufferSize).init.Undisturbed := fun _ hseq => by cases hseq
  exact Automata.System.invariant_of_meets hinit
    (fun _ _ _ hs hok hstep => hs.step hok hstep) hrun hm

/-- A late failure always disturbs the current transport. -/
theorem not_undisturbed_of_lateFailure {cfg : LinkConfig} {s s' : StatefulSession} {a : Action}
    (hlate : s.lateFailure cfg a = true) (hstep : s.next cfg a = some s') : ¬ s'.Undisturbed := by
  intro h
  cases step_of_next hstep with
  | sendWrite i t f outcome hi =>
    simp only [lateFailure, hi, Bool.and_eq_true, Bool.not_eq_true', bne_iff_ne] at hlate
    obtain ⟨⟨⟨⟨hw, ht⟩, hcur⟩, hseq⟩, hfail⟩ := hlate
    rw [sendWrite_of_error hw] at h
    have hwait := h hcur hseq (by simp [hfail, ht])
    cases hwait
  | _ => cases hlate

/-- A send on the old transport fails before the peer's `Sequence` arrives on the new one. -/
theorem undisturbed_of_meets_early :
    ∃ s, (system plainLink 100).run
        [.sendLock (.cancelInvocation ⟨[], "1"⟩) 0, .sendStore 0, .drop, .resumeStart,
          .resumeAbort, .resumeReopen (.ok ()), .sendWrite 0 (.error (.webSocket "broken pipe")),
          .receive (.sequence ⟨1⟩), .resumeStore, .resumeResend fun _ => .ok ()] = some s ∧
      (s.sequenced = true ∧ s.stored = 1) ∧ s.Undisturbed := by
  obtain ⟨s, hrun, hs⟩ := Option.map_eq_some_iff.mp
    (show ((system plainLink 100).run
      [.sendLock (.cancelInvocation ⟨[], "1"⟩) 0, .sendStore 0, .drop, .resumeStart,
        .resumeAbort, .resumeReopen (.ok ()), .sendWrite 0 (.error (.webSocket "broken pipe")),
        .receive (.sequence ⟨1⟩), .resumeStore, .resumeResend fun _ => .ok ()]).map
      (fun s => (s.sequenced, s.stored)) = some (true, 1) by rfl)
  exact ⟨s, hrun, by simpa using hs,
    undisturbed_of_meets plainLink 100 hrun (by decide +kernel)⟩

/-- **A late failure disturbs the resumed transport**: the peer's `Sequence` has been processed on
the reopened transport when a write to the old one fails, and the buffer waits for another
`Sequence`. -/
theorem late_failure_disturbs :
    ¬ ∀ (cfg : LinkConfig) (bufferSize : ℕ) (as : List Action) (s : StatefulSession),
        (system cfg bufferSize).run as = some s → s.Undisturbed := by
  intro h
  obtain ⟨s, hrun, hs⟩ := Option.map_eq_some_iff.mp
    (show ((system plainLink 100).run
      [.sendLock (.cancelInvocation ⟨[], "1"⟩) 0, .sendStore 0, .drop, .resumeStart,
        .resumeAbort, .resumeReopen (.ok ()), .receive (.sequence ⟨1⟩),
        .sendWrite 0 (.error (.webSocket "broken pipe"))]).map
      (fun s => (s.current.isSome, s.sequenced, s.failedSend, s.buffer.waitForSequenceMessage)) =
        some (true, true, false, true) by rfl)
  simp only [Prod.mk.injEq] at hs
  obtain ⟨hcur, hseq, hfail, hwait⟩ := hs
  have hundisturbed := h plainLink 100 _ s hrun hcur hseq hfail
  rw [hwait] at hundisturbed
  cases hundisturbed

end StatefulSession

end Signalrr.HubConnection
