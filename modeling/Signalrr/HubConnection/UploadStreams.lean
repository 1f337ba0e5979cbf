import Signalrr.HubConnection.CallSteps

set_option relaxedAutoImplicit false
set_option autoImplicit false

/-!
# Upload streams

`launch_upload_streams` in `src/hub_connection/upload_stream.rs` starts a task that sends the items
of the upload streams of a call. For each item the task reads the shared runtime anew, so an item
can follow a reconnect to a connection that knows nothing of its stream.

## Main definitions

* `Signalrr.HubConnection.View.UploadsStay` — the condition on a step: a runtime is stored only
  while the calls that may still upload were sent on its connection.
* `Signalrr.HubConnection.UploadInvariant` — what the upload tasks and the runtime have to do with
  each other.

## Main results

* `Signalrr.HubConnection.uploads_stay_on_connection` — items go to the connection that was told of
  their streams, in every run whose steps meet the condition.
* `Signalrr.HubConnection.upload_follows_reconnect` — they do not in general.
-/

namespace Signalrr.HubConnection

open Hub

/-- The condition on a step: when a runtime is stored, the calls whose upload streams were announced
and have not ended were sent on its connection. -/
def View.UploadsStay (v : View) : CoreAction → Prop
  | .op (.storeRuntime connection _ _ _) => ∀ c ∈ v.calls, c.announcing = true →
      c.sentOn = some connection
  | _ => True

instance (v : View) : (a : CoreAction) → Decidable (v.UploadsStay a)
  | .op (.storeRuntime connection _ _ _) => inferInstanceAs (Decidable (∀ c ∈ v.calls,
      c.announcing = true → c.sentOn = some connection))
  | .op (.control _) | .op (.cancelAllPending _) | .op .takeRuntime | .op (.storeBuffer _)
  | .op .clearBuffer | .op (.disconnectBuffer _) | .op (.shutdownRuntime ..)
  | .op (.closeTransport _) | .op .connect | .op .reopen
  | .newCall .. | .call .. | .roomDropped _ | .cancelHandle _ | .dropHandle _ | .handle ..
  | .produce .. | .upload .. | .receive .. | .cancelStream _ => .isTrue trivial

/-- What upload tasks rely on. -/
structure UploadInvariant (v : View) : Prop where
  /-- The runtime is the one of the connection that was told of the streams. -/
  announcing : ∀ (i : ℕ) c, v.calls[i]? = some c → c.announcing = true →
    ∀ rt, v.runtime = some rt → c.sentOn = some rt.connection
  uploads : ∀ e ∈ v.log.uploads, ∃ c, v.calls[e.1]? = some c ∧ e.2.1 ∈ c.streamIds ∧
    c.sentOn = some e.2.2

namespace UploadInvariant

variable {v v' : View} {a : CoreAction} {i : ℕ} {c c' : Call}

/-- **A step of one call**: the other calls are not concerned. -/
lemma set (h : UploadInvariant v) (hi : v.calls[i]? = some c) (pending : PendingTable)
    (runtime : Option HubRuntime) (log : Log)
    (hrt : runtime.map HubRuntime.connection = v.runtime.map HubRuntime.connection)
    (hann : c'.announcing = true → ∀ rt, v.runtime = some rt → c'.sentOn = some rt.connection)
    (hsent : ∀ k, c.sentOn = some k → c'.sentOn = some k ∧ c'.streamIds = c.streamIds)
    (huploads : ∀ e ∈ log.uploads, e ∈ v.log.uploads ∨
      e.1 = i ∧ e.2.1 ∈ c'.streamIds ∧ c'.sentOn = some e.2.2) :
    UploadInvariant
      (View.setCall { v with pending := pending, runtime := runtime, log := log } i c') := by
  constructor
  · intro j d hd hda rt hrt'
    obtain ⟨rt₀, hrt₀, heq⟩ := Option.map_eq_some_iff.mp
      (hrt.symm.trans (congrArg (Option.map HubRuntime.connection) hrt'))
    rw [← heq]
    rcases View.getElem?_setCall hd with ⟨-, rfl⟩ | ⟨-, hd⟩
    · exact hann hda rt₀ hrt₀
    · exact h.announcing j d hd hda rt₀ hrt₀
  · intro e he
    rcases huploads e he with he | ⟨rfl, hs⟩
    · obtain ⟨d, hd, hds, hdk⟩ := h.uploads e he
      by_cases hj : e.1 = i
      · subst hj
        obtain rfl : c = d := by simpa [hi] using hd
        obtain ⟨hs', hids⟩ := hsent _ hdk
        exact ⟨c', View.getElem?_setCall_self hi, hids ▸ hds, hs'⟩
      · exact ⟨d, by rwa [View.getElem?_setCall_ne hj], hds, hdk⟩
    · exact ⟨c', View.getElem?_setCall_self hi, hs⟩

/-- A call goes on with its connection and its streams, and announces nothing new. -/
lemma setCall (h : UploadInvariant v) (hi : v.calls[i]? = some c) (pending : PendingTable)
    (log : Log) (hann : c'.announcing = true → c.announcing = true) (hsent : c'.sentOn = c.sentOn)
    (hids : c'.streamIds = c.streamIds) (huploads : log.uploads = v.log.uploads) :
    UploadInvariant (View.setCall { v with pending := pending, log := log } i c') := by
  refine h.set hi pending v.runtime log rfl ?_ (fun k hk => ⟨hsent.trans hk, hids⟩)
    (fun e he => .inl (huploads ▸ he))
  intro ha rt hrt
  rw [hsent]
  exact h.announcing i c hi (hann ha) rt hrt

/-- A call that has not been sent announces nothing, and may change its streams. -/
lemma setUnsent (h : UploadInvariant v) (hi : v.calls[i]? = some c) (hnone : c.sentOn = none)
    (runtime : Option HubRuntime) (log : Log)
    (hrt : runtime.map HubRuntime.connection = v.runtime.map HubRuntime.connection)
    (hann : c'.announcing = false) (huploads : log.uploads = v.log.uploads) :
    UploadInvariant (View.setCall { v with runtime := runtime, log := log } i c') := by
  refine h.set hi v.pending runtime log hrt ?_ ?_ (fun e he => .inl (huploads ▸ he))
  · simp [hann]
  · simp [hnone]

/-- A new call announces nothing. -/
lemma newCall (h : UploadInvariant v) (kind : CallKind) (target : String)
    (arguments : List HubArgument) :
    UploadInvariant { v with calls := v.calls ++ [.new kind target arguments] } := by
  constructor
  · intro j d hd hda rt hrt
    rcases getElem?_newCall hd with ⟨rfl, -⟩ | hd
    · simp [Call.new, Call.announcing] at hda
    · exact h.announcing j d hd hda rt hrt
  · intro e he
    obtain ⟨d, hd, hds⟩ := h.uploads e he
    refine ⟨d, ?_, hds⟩
    rw [List.getElem?_append_left (List.getElem?_eq_some_iff.mp hd).1]
    exact hd

/-- The invariant holds initially. -/
lemma init : UploadInvariant Core.new.view where
  announcing := by simp [Core.new, Core.view]
  uploads := by simp [Core.new, Core.view]

/-- **Steps keep the invariant** when runtimes are stored for the connections of the calls that may
still upload. -/
theorem step (hwf : v.WellFormed) (h : UploadInvariant v) (hok : v.UploadsStay a)
    (hstep : ViewStep v a v') : UploadInvariant v' := by
  cases hstep with
  | keep => exact h
  | cancelAllPending | cancelStream => exact { h with }
  | receive b message outcome hp hd => exact { h with }
  | storeRuntime connection transport b writes =>
    refine { h with announcing := fun i c hi ha rt hrt => ?_ }
    obtain rfl := Option.some.inj hrt
    exact hok c (List.mem_of_getElem? hi) ha
  | takeRuntime => exact { h with announcing := fun i c hi ha rt hrt => by cases hrt }
  | newCall kind target arguments => exact h.newCall kind target arguments
  | quiet _ hi hq =>
    have hq := hq (hwf _ _ hi)
    exact h.setCall hi v.pending v.log hq.announcing hq.sentOn hq.streamIds rfl
  | @takeStreamIds i _ c rt hi hpc hrt values ids counter pc hr hnew =>
    obtain ⟨hnone, hup, -⟩ := (hwf i c hi).unsent (by simp [Call.unsent, hpc])
    refine h.setUnsent hi hnone _ _ (by simp [hrt]) ?_ rfl
    rcases hnew with rfl | rfl <;> simp [Call.announcing, hup]
  | @takeId i _ c rt hi hpc hrt =>
    obtain ⟨hnone, hup, -⟩ := (hwf i c hi).unsent (by simp [Call.unsent, hpc])
    exact h.setUnsent hi hnone _ _ (by simp [hrt]) (by simp [Call.announcing, hup]) rfl
  | @register i _ c id hi hpc hid p hp handle hh =>
    refine h.setCall hi _ _ ?_ rfl rfl rfl
    simp [Call.announcing, hpc]
  | @sendThrough i _ c rt hi hpc hrt pc hnew =>
    obtain ⟨hnone, -⟩ := (hwf i c hi).unsent (by simp [Call.unsent, hpc])
    refine h.set hi v.pending v.runtime _ rfl ?_ (by simp [hnone]) (fun e he => .inl he)
    intro _ rt' hrt'
    obtain rfl := Option.some.inj (hrt.symm.trans hrt')
    rfl
  | @cleanup i _ c error hi hpc handle hh =>
    refine h.setCall hi _ v.log ?_ rfl rfl rfl
    simp [Call.announcing, hpc]
  | handleRemove _ hi hc hnew => exact h.setCall hi _ _ (fun ha => ha) rfl rfl rfl
  | handleSend _ hi hc hrt hnew => exact h.setCall hi v.pending _ (fun ha => ha) rfl rfl rfl
  | @upload i _ c rt hi hup hrt command rest hcmd uploading =>
    have hann : c.announcing = true := by simp [Call.announcing, hup]
    have hsent := h.announcing i c hi hann rt hrt
    have hmem := (hwf i c hi).commands command (by simp [hcmd])
    refine h.set hi v.pending v.runtime _ rfl ?_ (fun k hk => ⟨hk, rfl⟩) ?_
    · exact fun _ => h.announcing i c hi hann
    · intro e he
      rcases List.mem_append.mp he with he | he
      · exact .inl he
      · obtain rfl := List.mem_singleton.mp he
        exact .inr ⟨rfl, hmem, hsent⟩

end UploadInvariant

/-! ## Runs -/

/-- **Uploads stay on their connection**: in every run in which a runtime is stored only while the
calls that may still upload were sent on its connection, what an upload task sends for a stream goes
to the connection on which the invocation was sent that announced the stream. -/
theorem uploads_stay_on_connection {options : ConnectionOptions} {as : List Action} {w : World}
    (hrun : (World.system options).run as = some w)
    (hm : (World.system options).Meets
      (World.OnCore options fun c => c.view.UploadsStay) as) :
    ∀ i s k, (i, s, k) ∈ w.core.log.uploads →
      ∃ c, w.core.calls[i]? = some c ∧ s ∈ c.streamIds ∧ c.sentOn = some k := by
  have h := (World.view_invariant UploadInvariant.init
    (fun v a v' hwf hI hok hstep => UploadInvariant.step hwf hI hok hstep) hrun hm).2
  exact fun i s k he => h.uploads _ he

/-- An item is uploaded, the transport is resumed, and the stream ends. -/
def uploadAcrossResume : List Action :=
  World.startRun .resumable ++ World.callRun 0 4 .send [.stream] ++
    [.core (.produce 0 "1" (some (.ok .null))), .core (.upload 0 (.ok ()))] ++
    World.supervisorRun 9 .dropped ++
    [.core (.produce 0 "1" none), .core (.upload 0 (.ok ()))]

/-- `uploads_stay_on_connection` applies to an upload that goes on after a resume. -/
theorem uploads_stay_on_connection_resume :
    ∃ w, (World.system .plain).run uploadAcrossResume = some w ∧
      w.core.log.uploads = [(0, "1", 0), (0, "1", 0)] ∧
      ∀ i s k, (i, s, k) ∈ w.core.log.uploads →
        ∃ c, w.core.calls[i]? = some c ∧ s ∈ c.streamIds ∧ c.sentOn = some k := by
  obtain ⟨w, hw, hlog⟩ := Option.map_eq_some_iff.mp (show
    ((World.system .plain).run uploadAcrossResume).map (fun w => w.core.log.uploads) =
      some [(0, "1", 0), (0, "1", 0)] by rfl)
  exact ⟨w, hw, hlog, uploads_stay_on_connection hw (by decide +kernel)⟩

/-- A stream is announced, the connection is lost and replaced, and an item is uploaded. -/
def uploadAcrossReconnect : List Action :=
  World.startRun {} ++ World.callRun 0 4 .send [.stream] ++ World.supervisorRun 27 .lost ++
    [.core (.produce 0 "1" (some (.ok .null))), .core (.upload 0 (.ok ()))]

/-- **An upload follows a reconnect**: an item goes to connection 1, although its stream was
announced on connection 0. -/
theorem upload_follows_reconnect :
    ¬ ∀ (options : ConnectionOptions) (as : List Action) (w : World),
      (World.system options).run as = some w →
        ∀ i s k, (i, s, k) ∈ w.core.log.uploads →
          ∃ c, w.core.calls[i]? = some c ∧ s ∈ c.streamIds ∧ c.sentOn = some k := by
  intro h
  obtain ⟨w, hw, hlog⟩ := Option.map_eq_some_iff.mp (show
    ((World.system .retrying).run uploadAcrossReconnect).map
      (fun w => (w.core.log.uploads, w.core.calls.map Call.sentOn)) =
        some ([(0, "1", 1)], [some 0]) by rfl)
  obtain ⟨huploads, hcalls⟩ := Prod.mk.inj hlog
  obtain ⟨c, hc, -, hsent⟩ := h _ _ w hw 0 "1" 1 (by simp [huploads])
  have hfirst := congrArg (fun l => l[0]?) hcalls
  simp [hc, hsent] at hfirst

end Signalrr.HubConnection
