import Mathlib.Data.List.Infix
import Mathlib.Data.List.TakeDrop
import Mathlib.Data.Int.Notation

set_option relaxedAutoImplicit false
set_option autoImplicit false

/-!
# One direction of a resumable channel

A sender numbers its data packets, keeps them until they are acknowledged and, on every new
transport, announces the number that follows and sends the kept packets again. A receiver counts
the packets it gets, skips those it has counted before and acknowledges the rest. Transports are
first-in first-out and may lose any final segment of what is in flight.

The receiver never learns a packet's number from the packet. It is right about the number because
an announcement comes first on every transport but the first one, because the sender never
announces more than the receiver has counted on its current transport, and because an
acknowledgement is only written once the receiver has caught up again. `Replay.Channel.Ok` states
this; the lemmas below show that every operation keeps it.

## Main definitions

* `Replay.Packet`, `Replay.Channel` — packets in flight, and the state of one direction.
* `Replay.Channel.Silent`, `Replay.Channel.Replaying`, `Replay.Channel.Synced` — the sender has
  not announced on this transport yet, its announcement is in flight, the receiver has got it.
* `Replay.Channel.Ok` — the invariant.

## Main results

* `Replay.Channel.Ok.head_data` — the packet the receiver counts is the one with that number.
* `Replay.Channel.Ok.head_announce` — an announcement names the first kept packet.
* `Replay.Channel.Ok.store`, `post`, `hold`, `wait`, `noise`, `acknowledge`, `takeData`,
  `takeAnnounce`, `takeAck`, `drop`, `reopen`, `replay` — the operations keep the invariant.
-/

namespace Replay

variable {α : Type*}

/-- A packet in flight: data, the announcement of the number of the next data packet, or
anything else. -/
inductive Packet (α : Type*) where
  | data (a : α)
  | announce (first : ℤ)
  | other

namespace Packet

/-- The data of a data packet. -/
def data? : Packet α → Option α
  | data a => some a
  | _ => none

/-- The number in an announcement. -/
def announce? : Packet α → Option ℤ
  | announce k => some k
  | _ => none

end Packet

/-- The data packets of a list, in order. -/
def dataOf (ps : List (Packet α)) : List α := ps.filterMap Packet.data?

@[simp] lemma dataOf_nil : dataOf ([] : List (Packet α)) = [] := rfl

@[simp] lemma dataOf_cons_data (a : α) (ps : List (Packet α)) :
    dataOf (.data a :: ps) = a :: dataOf ps := rfl

@[simp] lemma dataOf_cons_other (ps : List (Packet α)) :
    dataOf (.other :: ps) = dataOf ps := rfl

@[simp] lemma dataOf_append (ps qs : List (Packet α)) :
    dataOf (ps ++ qs) = dataOf ps ++ dataOf qs := by simp [dataOf]

@[simp] lemma dataOf_map_data (as : List α) : dataOf (as.map Packet.data) = as := by
  induction as with
  | nil => rfl
  | cons a as ih => rw [List.map_cons, dataOf_cons_data, ih]

/-- The data of a first part of the packets is a first part of the data. -/
lemma dataOf_take_isPrefix (ps : List (Packet α)) (n : ℕ) :
    dataOf (ps.take n) <+: dataOf ps :=
  ⟨dataOf (ps.drop n), by rw [← dataOf_append, List.take_append_drop]⟩

/-- The state of one direction of the channel. -/
structure Channel (α : Type*) where
  /-- The current transport is alive. -/
  up : Bool
  /-- All data the sender was given. -/
  sent : List α
  /-- How many packets the sender has dropped because they were acknowledged. -/
  base : ℕ
  /-- The sender holds packets back instead of writing them. -/
  held : Bool
  /-- The sender has started its replay on the current transport, or needs none. -/
  resumed : Bool
  /-- How many packets the receiver has counted, the skipped ones included. -/
  pos : ℕ
  /-- How many packets the receiver has accepted. -/
  seen : ℕ
  /-- The receiver ignores everything before the next announcement. -/
  waiting : Bool
  /-- An acknowledgement is going to be written to the current transport. -/
  armed : Bool
  /-- Packets in flight to the receiver. -/
  out : List (Packet α)
  /-- What is in flight to the sender: acknowledgements and anything else. -/
  back : List (Option ℤ)

namespace Channel

/-- The channel of a fresh connection. -/
def fresh : Channel α := ⟨true, [], 0, false, true, 0, 0, false, false, [], []⟩

/-- The sender has not announced anything on the current transport. -/
structure Silent (c : Channel α) : Prop where
  out : ∀ p ∈ c.out, p = .other
  back : ∀ k ∈ c.back, k = none
  armed : c.armed = false
  held : c.up = true → c.held = true

/-- The announcement is in flight, followed by the kept packets. -/
structure Replaying (c : Channel α) : Prop where
  out : ∃ pre post, c.out = pre ++ .announce (c.base + 1) :: post ∧ (∀ p ∈ pre, p = .other) ∧
    (∀ p ∈ post, p.announce? = none) ∧ dataOf post <+: c.sent.drop c.base ∧
    (c.up = true → c.held = false → dataOf post = c.sent.drop c.base)
  back : ∀ k ∈ c.back, k = none
  armed : c.armed = false
  resumed : c.up = true → c.resumed = true

/-- The receiver counts on the current transport. -/
structure Synced (c : Channel α) : Prop where
  out : ∀ p ∈ c.out, p.announce? = none
  data : c.waiting = false → dataOf c.out <+: c.sent.drop c.pos
  all : c.up = true → c.held = false → c.waiting = false → dataOf c.out = c.sent.drop c.pos
  back : ∀ k, some k ∈ c.back → k ≤ c.pos
  armed : c.armed = true → c.pos = c.seen
  resumed : c.up = true → c.resumed = true

/-- The invariant of one direction. -/
structure Ok (c : Channel α) : Prop where
  base_le : c.base ≤ c.pos
  pos_le : c.pos ≤ c.seen
  seen_le : c.seen ≤ c.sent.length
  phase : Silent c ∨ Replaying c ∨ Synced c

/-- A fresh channel satisfies the invariant. -/
lemma ok_fresh : Ok (fresh : Channel α) where
  base_le := le_rfl
  pos_le := le_rfl
  seen_le := le_rfl
  phase := .inr <| .inr ⟨by simp [fresh], by simp [fresh], by simp [fresh], by simp [fresh],
    by simp [fresh], by simp [fresh]⟩

variable {c : Channel α}

/-! ## The sender -/

/-- The sender keeps a packet it does not write. -/
def store (c : Channel α) (a : α) : Channel α := { c with sent := c.sent ++ [a] }

/-- The sender keeps and writes a packet. -/
def post (c : Channel α) (a : α) : Channel α :=
  { c with sent := c.sent ++ [a], out := c.out ++ [.data a] }

/-- The sender starts to hold packets back. -/
def hold (c : Channel α) : Channel α := { c with held := true }

/-- Extending what was sent extends every remainder of it. -/
private lemma drop_sent_append (hc : c.Ok) (a : α) {n : ℕ} (hn : n ≤ c.seen) :
    (c.sent ++ [a]).drop n = c.sent.drop n ++ [a] :=
  List.drop_append_of_le_length (hn.trans hc.seen_le)

/-- Keeping a packet that is not written, because the sender holds or the transport is gone. -/
lemma Ok.store (hc : c.Ok) (a : α) (h : c.up = true → c.held = true) : (c.store a).Ok := by
  have hb : c.base ≤ c.seen := hc.base_le.trans hc.pos_le
  refine ⟨hc.base_le, hc.pos_le, ?_, ?_⟩
  · have := hc.seen_le
    simp only [Channel.store, List.length_append, List.length_singleton]
    omega
  · rcases hc.phase with hs | hr | hy
    · exact .inl ⟨hs.out, hs.back, hs.armed, hs.held⟩
    · obtain ⟨pre, rest, hout, hpre, hrest, hdata, -⟩ := hr.out
      refine .inr <| .inl ⟨⟨pre, rest, hout, hpre, hrest, ?_, fun hu hh => ?_⟩, hr.back,
        hr.armed, hr.resumed⟩
      · simp only [Channel.store, drop_sent_append hc a hb]
        exact hdata.trans (List.prefix_append _ _)
      · simp [Channel.store, h hu] at hh
    · refine .inr <| .inr ⟨hy.out, fun hw => ?_, fun hu hh _ => ?_, hy.back, hy.armed, hy.resumed⟩
      · simp only [Channel.store, drop_sent_append hc a hc.pos_le]
        exact (hy.data hw).trans (List.prefix_append _ _)
      · simp [Channel.store, h hu] at hh

/-- Keeping and writing a packet. -/
lemma Ok.post (hc : c.Ok) (a : α) (hup : c.up = true) (hheld : c.held = false) :
    (c.post a).Ok := by
  have hb : c.base ≤ c.seen := hc.base_le.trans hc.pos_le
  refine ⟨hc.base_le, hc.pos_le, ?_, ?_⟩
  · have := hc.seen_le
    simp only [Channel.post, List.length_append, List.length_singleton]
    omega
  · rcases hc.phase with hs | hr | hy
    · simp [hs.held hup] at hheld
    · obtain ⟨pre, rest, hout, hpre, hrest, -, hall⟩ := hr.out
      have heq : dataOf (rest ++ [.data a]) = (c.sent ++ [a]).drop c.base := by
        rw [drop_sent_append hc a hb, dataOf_append, hall hup hheld]
        rfl
      refine .inr <| .inl ⟨⟨pre, rest ++ [.data a], ?_, hpre, ?_, ?_, fun _ _ => heq⟩, hr.back,
        hr.armed, hr.resumed⟩
      · simp [Channel.post, hout]
      · intro p hp
        rcases List.mem_append.mp hp with hp | hp
        · exact hrest p hp
        · rw [List.mem_singleton.mp hp]
          rfl
      · exact heq ▸ List.prefix_rfl
    · have heq : c.waiting = false →
          dataOf (c.out ++ [.data a]) = (c.sent ++ [a]).drop c.pos := by
        intro hw
        rw [drop_sent_append hc a hc.pos_le, dataOf_append, hy.all hup hheld hw]
        rfl
      refine .inr <| .inr ⟨?_, fun hw => heq hw ▸ List.prefix_rfl, fun _ _ hw => heq hw, hy.back,
        hy.armed, hy.resumed⟩
      intro p hp
      rcases List.mem_append.mp hp with hp | hp
      · exact hy.out p hp
      · rw [List.mem_singleton.mp hp]
        rfl

/-- Holding back. -/
lemma Ok.hold (hc : c.Ok) : c.hold.Ok := by
  refine ⟨hc.base_le, hc.pos_le, hc.seen_le, ?_⟩
  rcases hc.phase with hs | hr | hy
  · exact .inl ⟨hs.out, hs.back, hs.armed, fun _ => rfl⟩
  · obtain ⟨pre, rest, hout, hpre, hrest, hdata, -⟩ := hr.out
    exact .inr <| .inl ⟨⟨pre, rest, hout, hpre, hrest, hdata, fun _ hh => by cases hh⟩, hr.back,
      hr.armed, hr.resumed⟩
  · exact .inr <| .inr ⟨hy.out, hy.data, fun _ hh => by simp [Channel.hold] at hh, hy.back,
      hy.armed, hy.resumed⟩

/-! ## What is neither data nor an announcement nor an acknowledgement -/

/-- Something else enters in either direction. -/
def noise (c : Channel α) (out : ℕ) (back : ℕ) : Channel α :=
  { c with
    out := c.out ++ List.replicate out .other
    back := c.back ++ List.replicate back none }

/-- Other packets change nothing. -/
lemma Ok.noise (hc : c.Ok) (m n : ℕ) : (c.noise m n).Ok := by
  have hother : ∀ p ∈ List.replicate m (Packet.other : Packet α), p = .other :=
    fun p hp => List.eq_of_mem_replicate hp
  have hnone : ∀ k ∈ List.replicate n (none : Option ℤ), k = none :=
    fun k hk => List.eq_of_mem_replicate hk
  have hdata : dataOf (List.replicate m (Packet.other : Packet α)) = [] := by
    induction m with
    | zero => rfl
    | succ m ih =>
      rw [List.replicate_succ, dataOf_cons_other]
      exact ih (fun p hp => List.eq_of_mem_replicate hp)
  refine ⟨hc.base_le, hc.pos_le, hc.seen_le, ?_⟩
  rcases hc.phase with hs | hr | hy
  · refine .inl ⟨?_, ?_, hs.armed, hs.held⟩
    · intro p hp
      exact (List.mem_append.mp hp).elim (hs.out p) (hother p)
    · intro k hk
      exact (List.mem_append.mp hk).elim (hs.back k) (hnone k)
  · obtain ⟨pre, rest, hout, hpre, hrest, hpfx, hall⟩ := hr.out
    have hrest' : dataOf (rest ++ List.replicate m .other) = dataOf rest := by
      rw [dataOf_append, hdata, List.append_nil]
    refine .inr <| .inl ⟨⟨pre, rest ++ List.replicate m .other, ?_, hpre, ?_, ?_, ?_⟩, ?_,
      hr.armed, hr.resumed⟩
    · simp [Channel.noise, hout]
    · intro p hp
      rcases List.mem_append.mp hp with hp | hp
      · exact hrest p hp
      · rw [hother p hp]
        rfl
    · rw [hrest']
      exact hpfx
    · rw [hrest']
      exact hall
    · intro k hk
      exact (List.mem_append.mp hk).elim (hr.back k) (hnone k)
  · have hout' : dataOf (c.out ++ List.replicate m .other) = dataOf c.out := by
      rw [dataOf_append, hdata, List.append_nil]
    refine .inr <| .inr ⟨?_, ?_, ?_, ?_, hy.armed, hy.resumed⟩
    · intro p hp
      rcases List.mem_append.mp hp with hp | hp
      · exact hy.out p hp
      · rw [hother p hp]
        rfl
    · intro hw
      simp only [Channel.noise, hout']
      exact hy.data hw
    · intro hu hh hw
      simp only [Channel.noise, hout']
      exact hy.all hu hh hw
    · intro k hk
      rcases List.mem_append.mp hk with hk | hk
      · exact hy.back k hk
      · cases hnone _ hk

/-! ## The receiver -/

/-- The receiver starts to wait for an announcement. -/
def wait (c : Channel α) : Channel α := { c with waiting := true }

/-- Waiting for an announcement. -/
lemma Ok.wait (hc : c.Ok) : c.wait.Ok := by
  refine ⟨hc.base_le, hc.pos_le, hc.seen_le, ?_⟩
  rcases hc.phase with hs | hr | hy
  · exact .inl ⟨hs.out, hs.back, hs.armed, hs.held⟩
  · exact .inr <| .inl ⟨hr.out, hr.back, hr.armed, hr.resumed⟩
  · exact .inr <| .inr ⟨hy.out, fun hw => by simp [Channel.wait] at hw,
      fun _ _ hw => by simp [Channel.wait] at hw, hy.back, hy.armed, hy.resumed⟩

/-- The pending acknowledgement is given up. -/
def disarm (c : Channel α) : Channel α := { c with armed := false }

/-- Giving up an acknowledgement. -/
lemma Ok.disarm (hc : c.Ok) : c.disarm.Ok := by
  refine ⟨hc.base_le, hc.pos_le, hc.seen_le, ?_⟩
  rcases hc.phase with hs | hr | hy
  · exact .inl ⟨hs.out, hs.back, rfl, hs.held⟩
  · exact .inr <| .inl ⟨hr.out, hr.back, rfl, hr.resumed⟩
  · exact .inr <| .inr ⟨hy.out, hy.data, hy.all, hy.back,
      fun h => by simp [Channel.disarm] at h, hy.resumed⟩

/-- The receiver acknowledges what it has accepted. -/
def acknowledge (c : Channel α) : Channel α :=
  { c with back := c.back ++ [some (c.seen : ℤ)], armed := false }

/-- Writing the pending acknowledgement: the receiver has caught up, so it acknowledges no more
than it has counted on this transport. -/
lemma Ok.acknowledge (hc : c.Ok) (harmed : c.armed = true) : c.acknowledge.Ok := by
  refine ⟨hc.base_le, hc.pos_le, hc.seen_le, ?_⟩
  rcases hc.phase with hs | hr | hy
  · simp [hs.armed] at harmed
  · simp [hr.armed] at harmed
  · refine .inr <| .inr ⟨hy.out, hy.data, hy.all, ?_,
      fun h => by simp [Channel.acknowledge] at h, hy.resumed⟩
    intro k hk
    rcases List.mem_append.mp hk with hk | hk
    · exact hy.back k hk
    · obtain rfl : k = (c.seen : ℤ) := by simpa using hk
      simp [Channel.acknowledge, hy.armed harmed]

/-- The receiver takes something else from the transport. -/
def takeOther (c : Channel α) (rest : List (Packet α)) : Channel α := { c with out := rest }

/-- Taking something else. -/
lemma Ok.takeOther (hc : c.Ok) {rest : List (Packet α)} (hout : c.out = .other :: rest) :
    (c.takeOther rest).Ok := by
  refine ⟨hc.base_le, hc.pos_le, hc.seen_le, ?_⟩
  have hdata : dataOf c.out = dataOf rest := by rw [hout, dataOf_cons_other]
  rcases hc.phase with hs | hr | hy
  · exact .inl ⟨fun p hp => hs.out p (hout ▸ List.mem_cons_of_mem _ hp), hs.back, hs.armed,
      hs.held⟩
  · obtain ⟨pre, post, heq, hpre, hrest⟩ := hr.out
    cases pre with
    | nil => simp [hout] at heq
    | cons p pre =>
      have htail : rest = pre ++ .announce (c.base + 1) :: post := by
        rw [hout] at heq
        exact (List.cons.inj heq).2
      exact .inr <| .inl ⟨⟨pre, post, htail, fun q hq => hpre q (List.mem_cons_of_mem _ hq),
        hrest⟩, hr.back, hr.armed, hr.resumed⟩
  · refine .inr <| .inr ⟨fun p hp => hy.out p (hout ▸ List.mem_cons_of_mem _ hp), fun hw => ?_,
      fun hu hh hw => ?_, hy.back, hy.armed, hy.resumed⟩
    · simp only [Channel.takeOther, ← hdata]
      exact hy.data hw
    · simp only [Channel.takeOther, ← hdata]
      exact hy.all hu hh hw

/-- A data packet at the head is only taken in the synced phase. -/
private lemma Ok.synced_of_data (hc : c.Ok) {a : α} {rest : List (Packet α)}
    (hout : c.out = .data a :: rest) : c.Synced := by
  rcases hc.phase with hs | hr | hy
  · have := hs.out (.data a) (by simp [hout])
    cases this
  · obtain ⟨pre, post, heq, hpre, -⟩ := hr.out
    cases pre with
    | nil => simp [hout] at heq
    | cons p pre =>
      rw [hout] at heq
      have hp := hpre p List.mem_cons_self
      rw [hp] at heq
      cases (List.cons.inj heq).1
  · exact hy

/-- **The receiver counts right**: the data packet it takes is the one numbered `pos + 1`. -/
lemma Ok.head_data (hc : c.Ok) {a : α} {rest : List (Packet α)} (hout : c.out = .data a :: rest)
    (hw : c.waiting = false) : c.sent.drop c.pos = a :: c.sent.drop (c.pos + 1) := by
  have hy := hc.synced_of_data hout
  have hpfx := hy.data hw
  rw [hout, dataOf_cons_data] at hpfx
  obtain ⟨t, ht⟩ := hpfx
  rw [← List.drop_drop, ← ht]
  simp

/-- The receiver ignores a data packet. -/
def skipData (c : Channel α) (rest : List (Packet α)) : Channel α := { c with out := rest }

/-- Ignoring data while waiting for an announcement. -/
lemma Ok.skipData (hc : c.Ok) {a : α} {rest : List (Packet α)} (hout : c.out = .data a :: rest)
    (hw : c.waiting = true) : (c.skipData rest).Ok := by
  have hy := hc.synced_of_data hout
  refine ⟨hc.base_le, hc.pos_le, hc.seen_le, .inr <| .inr ⟨?_, ?_, ?_, hy.back, hy.armed,
    hy.resumed⟩⟩
  · exact fun p hp => hy.out p (hout ▸ List.mem_cons_of_mem _ hp)
  · intro h
    simp [Channel.skipData, hw] at h
  · intro _ _ h
    simp [Channel.skipData, hw] at h

/-- The receiver counts a data packet, and accepts it when it is new. -/
def takeData (c : Channel α) (rest : List (Packet α)) (armed : Bool) : Channel α :=
  { c with
    out := rest
    pos := c.pos + 1
    seen := if c.pos < c.seen then c.seen else c.seen + 1
    armed := armed }

/-- Counting a data packet. The receiver may arm an acknowledgement only when the packet is the
last one it has accepted.

**Proof sketch.** By `head_data` the packet is the next one the sender was given, so the data
still in flight is a first part of what follows it. An acknowledgement that was armed before
belongs to a receiver that had caught up, and it stays so. -/
lemma Ok.takeData (hc : c.Ok) {a : α} {rest : List (Packet α)} (hout : c.out = .data a :: rest)
    (hw : c.waiting = false) {armed : Bool}
    (harmed : armed = true → c.armed = true ∨ c.seen ≤ c.pos + 1) :
    (c.takeData rest armed).Ok := by
  have hy := hc.synced_of_data hout
  have hhead := hc.head_data hout hw
  have hlt : c.pos < c.sent.length := by
    by_contra hge
    rw [List.drop_eq_nil_of_le (by omega)] at hhead
    cases hhead
  have hb := hc.base_le
  have hp := hc.pos_le
  have hs := hc.seen_le
  have hrest : dataOf rest <+: c.sent.drop (c.pos + 1) := by
    have hpfx := hy.data hw
    rw [hout, dataOf_cons_data, hhead] at hpfx
    exact (List.prefix_cons_inj a).mp hpfx
  refine ⟨?_, ?_, ?_, .inr <| .inr ⟨?_, fun _ => hrest, ?_, ?_, ?_, hy.resumed⟩⟩
  · simp only [Channel.takeData]
    omega
  · simp only [Channel.takeData]
    split <;> omega
  · simp only [Channel.takeData]
    split <;> omega
  · exact fun p hp => hy.out p (hout ▸ List.mem_cons_of_mem _ hp)
  · intro hu hh hw'
    have hall := hy.all hu hh hw
    rw [hout, dataOf_cons_data, hhead] at hall
    exact (List.cons.inj hall).2
  · intro k hk
    have := hy.back k hk
    simp only [Channel.takeData]
    omega
  · intro h
    simp only [Channel.takeData] at h ⊢
    rcases harmed h with h' | h'
    · have := hy.armed h'
      split <;> omega
    · split <;> omega

/-- **Announcements are right**: they name the first packet the sender has kept. -/
lemma Ok.head_announce (hc : c.Ok) {k : ℤ} {rest : List (Packet α)}
    (hout : c.out = .announce k :: rest) :
    k = c.base + 1 ∧ (∀ p ∈ rest, p.announce? = none) ∧ dataOf rest <+: c.sent.drop c.base ∧
      (c.up = true → c.held = false → dataOf rest = c.sent.drop c.base) ∧ c.Replaying := by
  rcases hc.phase with hs | hr | hy
  · have := hs.out (.announce k) (by simp [hout])
    cases this
  · obtain ⟨pre, post, heq, hpre, hrest, hdata, hall⟩ := hr.out
    cases pre with
    | nil =>
      rw [hout, List.nil_append] at heq
      obtain ⟨hk, rfl⟩ := List.cons.inj heq
      cases hk
      exact ⟨rfl, hrest, hdata, hall, hr⟩
    | cons p pre =>
      rw [hout, hpre p List.mem_cons_self] at heq
      cases (List.cons.inj heq).1
  · have := hy.out (.announce k) (by simp [hout])
    cases this

/-- The receiver goes back to the announced number. -/
def takeAnnounce (c : Channel α) (rest : List (Packet α)) : Channel α :=
  { c with out := rest, pos := c.base, waiting := false }

/-- Taking an announcement: the receiver counts again from the first kept packet. -/
lemma Ok.takeAnnounce (hc : c.Ok) {k : ℤ} {rest : List (Packet α)}
    (hout : c.out = .announce k :: rest) : (c.takeAnnounce rest).Ok := by
  obtain ⟨-, hrest, hdata, hall, hr⟩ := hc.head_announce hout
  refine ⟨le_rfl, hc.base_le.trans hc.pos_le, hc.seen_le, .inr <| .inr ⟨hrest, fun _ => hdata,
    fun hu hh _ => hall hu hh, ?_, ?_, hr.resumed⟩⟩
  · intro k hk
    cases hr.back _ hk
  · intro h
    simp only [Channel.takeAnnounce, hr.armed] at h
    cases h

/-! ## Acknowledgements -/

/-- The sender takes what is at the head of the way back, and drops packets up to `k`. -/
def takeAck (c : Channel α) (rest : List (Option ℤ)) (k : ℕ) : Channel α :=
  { c with back := rest, base := max c.base k }

/-- Taking an acknowledgement of `k`, or something else with `k = 0`. -/
lemma Ok.takeAck (hc : c.Ok) {x : Option ℤ} {rest : List (Option ℤ)} (hback : c.back = x :: rest)
    {k : ℕ} (hk : k = 0 ∨ x = some (k : ℤ)) : (c.takeAck rest k).Ok := by
  have hmem : ∀ y ∈ rest, y ∈ c.back := fun y hy => hback ▸ List.mem_cons_of_mem _ hy
  have hx : x ∈ c.back := hback ▸ List.mem_cons_self
  have hnoAck : (∀ y ∈ c.back, y = none) → k = 0 := by
    intro h
    rcases hk with hk | rfl
    · exact hk
    · cases h _ hx
  rcases hc.phase with hs | hr | hy
  · have hb : max c.base k = c.base := by rw [hnoAck hs.back]; exact Nat.max_eq_left (Nat.zero_le _)
    refine ⟨?_, hc.pos_le, hc.seen_le, .inl ⟨hs.out, fun y hy => hs.back y (hmem y hy), hs.armed,
      hs.held⟩⟩
    simpa only [Channel.takeAck, hb] using hc.base_le
  · have hb : max c.base k = c.base := by rw [hnoAck hr.back]; exact Nat.max_eq_left (Nat.zero_le _)
    have heq : c.takeAck rest k = { c with back := rest } := by simp only [Channel.takeAck, hb]
    rw [heq]
    exact ⟨hc.base_le, hc.pos_le, hc.seen_le, .inr <| .inl ⟨hr.out,
      fun y hy => hr.back y (hmem y hy), hr.armed, hr.resumed⟩⟩
  · have hkpos : k ≤ c.pos := by
      rcases hk with rfl | rfl
      · exact Nat.zero_le _
      · exact_mod_cast hy.back _ hx
    refine ⟨max_le hc.base_le hkpos, hc.pos_le, hc.seen_le, .inr <| .inr ⟨hy.out, hy.data, hy.all,
      fun j hj => hy.back j (hmem _ hj), hy.armed, hy.resumed⟩⟩

/-! ## Transports -/

/-- The transport drops, losing all but the first `n` packets to the receiver and the first `m`
to the sender. -/
def drop (c : Channel α) (n m : ℕ) : Channel α :=
  { c with up := false, out := c.out.take n, back := c.back.take m }

/-- A drop at any moment.

**Proof sketch.** Silent and synced channels lose packets they make no demand on. In a replay
either the announcement survives, with a first part of the data behind it, or the channel is
silent again. -/
lemma Ok.drop (hc : c.Ok) (n m : ℕ) : (c.drop n m).Ok := by
  have hout : ∀ p ∈ c.out.take n, p ∈ c.out := fun p hp => List.mem_of_mem_take hp
  have hback : ∀ k ∈ c.back.take m, k ∈ c.back := fun k hk => List.mem_of_mem_take hk
  refine ⟨hc.base_le, hc.pos_le, hc.seen_le, ?_⟩
  rcases hc.phase with hs | hr | hy
  · exact .inl ⟨fun p hp => hs.out p (hout p hp), fun k hk => hs.back k (hback k hk), hs.armed,
      fun h => by cases h⟩
  · obtain ⟨pre, post, heq, hpre, hrest, hdata, -⟩ := hr.out
    rcases Nat.lt_or_ge pre.length n with hn | hn
    · -- the announcement survives
      obtain ⟨j, rfl⟩ : ∃ j, n = pre.length + (j + 1) := ⟨n - pre.length - 1, by omega⟩
      refine .inr <| .inl ⟨⟨pre, post.take j, ?_, hpre, ?_, ?_, fun h => by cases h⟩,
        fun k hk => hr.back k (hback k hk), hr.armed, fun h => by cases h⟩
      · simp [Channel.drop, heq, List.take_append]
      · exact fun p hp => hrest p (List.mem_of_mem_take hp)
      · exact (dataOf_take_isPrefix post j).trans hdata
    · refine .inl ⟨fun p hp => ?_, fun k hk => hr.back k (hback k hk), hr.armed,
        fun h => by cases h⟩
      have hp' : p ∈ pre.take n := by
        simpa [Channel.drop, heq, List.take_append_of_le_length hn] using hp
      exact hpre p (List.mem_of_mem_take hp')
  · refine .inr <| .inr ⟨fun p hp => hy.out p (hout p hp),
      fun hw => (dataOf_take_isPrefix c.out n).trans (hy.data hw), fun h => (by cases h),
      fun k hk => hy.back k (hback _ hk), hy.armed, fun h => (by cases h)⟩

/-- A new transport is opened. -/
def reopen (c : Channel α) : Channel α :=
  { c with up := true, out := [], back := [], armed := false, resumed := false }

/-- Opening a transport while the sender holds. -/
lemma Ok.reopen (hc : c.Ok) (hheld : c.held = true) : c.reopen.Ok :=
  ⟨hc.base_le, hc.pos_le, hc.seen_le, .inl ⟨by simp [Channel.reopen], by simp [Channel.reopen],
    rfl, fun _ => hheld⟩⟩

/-- The sender writes its announcement and kept packets, or as many of these packets as the
transport takes; `done` when all of them went out. -/
def replay (c : Channel α) (written : List (Packet α)) (done : Bool) : Channel α :=
  { c with
    out := c.out ++ written
    resumed := true
    held := if done then false else c.held }

/-- Replaying on a transport on which nothing was announced yet. -/
lemma Ok.replay (hc : c.Ok) (hup : c.up = true) (hres : c.resumed = false)
    {written : List (Packet α)} {done : Bool}
    (hw : (written = [] ∧ done = false) ∨ ∃ as, written = .announce (c.base + 1) :: as.map .data ∧
      as <+: c.sent.drop c.base ∧ (done = true → as = c.sent.drop c.base)) :
    (c.replay written done).Ok := by
  have hsil : c.Silent := by
    rcases hc.phase with hs | hr | hy
    · exact hs
    · simp [hr.resumed hup] at hres
    · simp [hy.resumed hup] at hres
  refine ⟨hc.base_le, hc.pos_le, hc.seen_le, ?_⟩
  rcases hw with ⟨rfl, rfl⟩ | ⟨as, rfl, hpfx, hall⟩
  · exact .inl ⟨by simpa [Channel.replay] using hsil.out, hsil.back, hsil.armed,
      by simpa [Channel.replay] using hsil.held⟩
  · refine .inr <| .inl ⟨⟨c.out, as.map .data, rfl, hsil.out, ?_, ?_, ?_⟩, hsil.back, hsil.armed,
      fun _ => rfl⟩
    · intro p hp
      obtain ⟨a, -, rfl⟩ := List.mem_map.mp hp
      rfl
    · simpa [Channel.replay] using hpfx
    · intro _ hh
      cases done with
      | false => simp [Channel.replay, hsil.held hup] at hh
      | true => simpa [Channel.replay] using hall rfl

end Channel

end Replay
