import Signalrr.Framing.Base128
import Signalrr.Hub.Message

set_option relaxedAutoImplicit false
set_option autoImplicit false

/-!
# Message framing

`src/framing/binary.rs` and `src/framing/text.rs`: a binary message is written behind its length, a
text message is followed by a record separator. A received buffer holds one or more messages.

## Main definitions

* `Signalrr.Framing.BinaryMessageFormat.write`, `parse` — the binary format. `parse` works on words
  of `w` bits; `none` stands for a panic or a wrapped sum.
* `Signalrr.Framing.IsLength`, `Signalrr.Framing.Frames`, `Signalrr.Framing.BadFrame` — the format:
  length bytes, lists of frames, and the ways in which a frame is bad.
* `Signalrr.Framing.TextMessageFormat.write`, `parse` — the text format.

## Main results

* `Signalrr.Framing.BinaryMessageFormat.parse_exact` — `parse` accepts exactly the lists of frames,
  and names what is wrong with the first bad frame.
* `Signalrr.Framing.TextMessageFormat.parse_write` — a batch of messages without separators is split
  into its messages.

## Design

The loops of `parse` run on an index into the whole input, with the sums the source computes. The
shifts are taken off the table `NUM_BITS_TO_SHIFT` one by one, so that running out of them is an
index behind its end. The outer loop has as much fuel as the input has bytes; running out of it
would be `none` as well.
-/

namespace Signalrr.Framing

open Hub Base128

/-- Errors of text and binary framing. -/
inductive FramingError where
  | incompleteMessage
  | cannotReadSize
  | messageTooLarge
  deriving DecidableEq, Repr

/-- The text of a framing error. -/
def FramingError.toText : FramingError → String
  | incompleteMessage => "message is incomplete"
  | cannotReadSize => "cannot read message size"
  | messageTooLarge => "messages bigger than 2GB are not supported"

/-! ## The binary format -/

namespace BinaryMessageFormat

/-- `MAX_LENGTH_PREFIX_SIZE`. -/
def maxLengthSize : ℕ := 5

/-- `NUM_BITS_TO_SHIFT`. -/
def numBitsToShift : List ℕ := [0, 7, 14, 21, 28]

/-- The length bytes of `write`: seven bits at a time, the high bit set while bits are left. -/
def writeSize (size : ℕ) : Bytes :=
  let sizePart := size &&& 0x7f
  if 0 < size >>> 7 then UInt8.ofNat (sizePart ||| 0x80) :: writeSize (size >>> 7)
  else [UInt8.ofNat sizePart]
termination_by size
decreasing_by
  rename_i h
  rw [Nat.shiftRight_eq_div_pow] at h ⊢
  omega

/-- `BinaryMessageFormat::write`. -/
def write (payload : Bytes) : Bytes := writeSize payload.length ++ payload

/-- A sum of words of `w` bits, `none` when it wraps. -/
def add (w a b : ℕ) : Option ℕ := if a + b < 2 ^ w then some (a + b) else none

/-- A slice of the input, `none` when it is out of bounds. -/
def slice (input : Bytes) (start stop : ℕ) : Option Bytes :=
  if start ≤ stop ∧ stop ≤ input.length then some ((input.drop start).take (stop - start)) else none

/-- The inner loop of `parse`: reads length bytes from `offset` on. Returns how many bytes it has
read, the size and the last byte. -/
def readSize (w : ℕ) (input : Bytes) (offset : ℕ) :
    List ℕ → ℕ → ℕ → Option (Except FramingError (ℕ × ℕ × UInt8))
  | [], _, _ => none
  | shift :: shifts, numBytes, size =>
    (add w offset numBytes).bind fun pos =>
      if input.length ≤ pos then some (.error .cannotReadSize)
      else
        input[pos]?.bind fun byteRead =>
          let size := size ||| ((byteRead &&& 0x7f).toNat <<< shift) % 2 ^ w
          let numBytes := numBytes + 1
          if min maxLengthSize (input.length - offset) ≤ numBytes ∨ byteRead &&& 0x80 = 0 then
            some (.ok (numBytes, size, byteRead))
          else readSize w input offset shifts numBytes size

/-- The length at `offset`, with the checks behind the inner loop: the number of length bytes and
the size. -/
def readLength (w : ℕ) (input : Bytes) (offset : ℕ) : Option (Except FramingError (ℕ × ℕ)) :=
  (readSize w input offset numBitsToShift 0 0).map fun
    | .error e => .error e
    | .ok (numBytes, size, byteRead) =>
      if byteRead &&& 0x80 ≠ 0 ∧ numBytes < maxLengthSize then .error .cannotReadSize
      else if numBytes = maxLengthSize ∧ 7 < byteRead.toNat then .error .messageTooLarge
      else .ok (numBytes, size)

/-- The outer loop of `parse`, from `offset` on, with the messages found so far. -/
def parseLoop (w : ℕ) (input : Bytes) :
    ℕ → ℕ → List Bytes → Option (Except FramingError (List Bytes))
  | 0, offset, result => if offset < input.length then none else some (.ok result)
  | fuel + 1, offset, result =>
    if offset < input.length then
      (readLength w input offset).bind fun
        | .error e => some (.error e)
        | .ok (numBytes, size) =>
          (add w offset numBytes).bind fun start =>
            (add w start size).bind fun stop =>
              if stop ≤ input.length then
                (slice input start stop).bind fun payload =>
                  ((add w numBytes size).bind (add w offset)).bind fun offset =>
                    parseLoop w input fuel offset (result ++ [payload])
              else some (.error .incompleteMessage)
    else some (.ok result)

/-- `BinaryMessageFormat::parse` on words of `w` bits. -/
def parse (w : ℕ) (input : Bytes) : Option (Except FramingError (List Bytes)) :=
  parseLoop w input input.length 0 []

end BinaryMessageFormat

/-- The bytes stand for a length: one to five of them, all but the last go on, and the fifth is at
most seven. -/
def IsLength (p : Bytes) (n : ℕ) : Prop :=
  ∃ init last, p = init ++ [last] ∧ init.length ≤ 4 ∧ (∀ b ∈ init, Continues b) ∧
    ¬ Continues last ∧ (init.length = 4 → last.toNat ≤ 7) ∧ n = value p

/-- The input is a list of frames with the given payloads. -/
inductive Frames : Bytes → List Bytes → Prop where
  | nil : Frames [] []
  | cons {p payload rest : Bytes} {ps : List Bytes} (hp : IsLength p payload.length)
      (h : Frames rest ps) : Frames (p ++ payload ++ rest) (payload :: ps)

/-- The input does not begin with a frame: the length is cut off, its fifth byte is above seven, or
fewer bytes follow than it says. -/
inductive BadFrame : Bytes → FramingError → Prop where
  | cut {rest : Bytes} (hne : rest ≠ []) (hlen : rest.length < 5) (h : ∀ b ∈ rest, Continues b) :
      BadFrame rest .cannotReadSize
  | large {init tail : Bytes} {fifth : UInt8} (hlen : init.length = 4)
      (h : ∀ b ∈ init, Continues b) (hfifth : 7 < fifth.toNat) :
      BadFrame (init ++ fifth :: tail) .messageTooLarge
  | short {p tail : Bytes} {n : ℕ} (hp : IsLength p n) (h : tail.length < n) :
      BadFrame (p ++ tail) .incompleteMessage

namespace BinaryMessageFormat

/-! ### Writing -/

/-- The length bytes, in terms of division by 128. -/
lemma writeSize_eq (n : ℕ) :
    writeSize n = if n < 128 then [UInt8.ofNat n]
      else UInt8.ofNat (n % 128 + 128) :: writeSize (n / 128) := by
  have hand : n &&& 0x7f = n % 128 := Nat.and_two_pow_sub_one_eq_mod n 7
  have hshift : n >>> 7 = n / 128 := Nat.shiftRight_eq_div_pow n 7
  rw [writeSize]
  simp only [hand, hshift]
  by_cases h : n < 128
  · rw [if_neg (by omega), if_pos h, Nat.mod_eq_of_lt h]
  · rw [if_pos (by omega), if_neg h, or_128 (Nat.mod_lt _ (by decide))]

/-- What the length bytes are: all but the last go on, their value is the number, and there are no
more of them than its bits need.

**Proof sketch.** Strong induction on the number, one byte for its lowest seven bits. -/
lemma writeSize_spec (n : ℕ) :
    ∃ init last, writeSize n = init ++ [last] ∧ (∀ b ∈ init, Continues b) ∧ ¬ Continues last ∧
      value (writeSize n) = n ∧ ∀ k, n < 128 ^ (k + 1) → init.length ≤ k := by
  induction n using Nat.strong_induction_on with
  | _ n ih =>
    by_cases h : n < 128
    · have hn : (UInt8.ofNat n).toNat = n := by
        rw [UInt8.toNat_ofNat']
        omega
      refine ⟨[], UInt8.ofNat n, ?_, by simp, ?_, ?_, by simp⟩
      · rw [writeSize_eq, if_pos h, List.nil_append]
      · rw [Continues, hn]
        omega
      · rw [writeSize_eq, if_pos h, value_cons, hn, value_nil]
        omega
    · obtain ⟨init, last, heq, hcont, hlast, hval, hlen⟩ := ih (n / 128) (by omega)
      have hb : (UInt8.ofNat (n % 128 + 128)).toNat = n % 128 + 128 := by
        rw [UInt8.toNat_ofNat']
        omega
      refine ⟨UInt8.ofNat (n % 128 + 128) :: init, last, ?_, ?_, hlast, ?_, fun k hk => ?_⟩
      · rw [writeSize_eq, if_neg h, heq, List.cons_append]
      · intro b hmem
        rcases List.mem_cons.mp hmem with rfl | hmem
        · rw [Continues, hb]
          omega
        · exact hcont b hmem
      · rw [writeSize_eq, if_neg h, value_cons, hb, hval]
        omega
      · cases k with
        | zero => omega
        | succ k =>
          have hdiv : n / 128 < 128 ^ (k + 1) := by
            rw [pow_succ] at hk
            omega
          rw [List.length_cons]
          exact Nat.succ_le_succ (hlen k hdiv)

/-- The length bytes of a message below 2 GB. -/
lemma isLength_writeSize {n : ℕ} (h : n < 2 ^ 31) : IsLength (writeSize n) n := by
  obtain ⟨init, last, heq, hcont, hlast, hval, hlen⟩ := writeSize_spec n
  refine ⟨init, last, heq, hlen 4 (by omega), hcont, hlast, fun h4 => ?_, hval.symm⟩
  have hbig := hval
  rw [heq, value_append, h4, value_cons, value_nil] at hbig
  unfold Continues at hlast
  omega

/-- A batch of written messages is a list of frames. -/
lemma frames_write {payloads : List Bytes} (h : ∀ p ∈ payloads, p.length < 2 ^ 31) :
    Frames (payloads.flatMap write) payloads := by
  induction payloads with
  | nil => exact .nil
  | cons payload payloads ih =>
    obtain ⟨hp, hps⟩ := List.forall_mem_cons.mp h
    exact .cons (isLength_writeSize hp) (ih hps)

/-! ### Reading a length -/

section Reading

variable {w : ℕ} {input : Bytes} {offset j : ℕ}

/-- The shifts from the `j`-th on. -/
lemma drop_numBitsToShift (hj : j ≤ 4) :
    numBitsToShift.drop j = 7 * j :: numBitsToShift.drop (j + 1) := by
  have hcases : j = 0 ∨ j = 1 ∨ j = 2 ∨ j = 3 ∨ j = 4 := by omega
  rcases hcases with rfl | rfl | rfl | rfl | rfl <;> rfl

/-- One round of the inner loop: the byte at the position, added to the size; the loop ends at a
byte that does not go on, at the fifth byte and at the end of the input. -/
lemma readSize_step (hw : input.length < 2 ^ w) (hj : j ≤ 4) {b : UInt8} {tail : Bytes}
    (hrest : input.drop (offset + j) = b :: tail) (size : ℕ) :
    readSize w input offset (numBitsToShift.drop j) j size =
      let size' := size ||| ((b.toNat % 128) <<< (7 * j)) % 2 ^ w
      if ¬ Continues b ∨ j = 4 ∨ tail = [] then some (.ok (j + 1, size', b))
      else readSize w input offset (numBitsToShift.drop (j + 1)) (j + 1) size' := by
  have hlen : (input.drop (offset + j)).length = tail.length + 1 := by rw [hrest]; rfl
  rw [List.length_drop] at hlen
  have hget : input[offset + j]? = some b := by
    have := congrArg List.head? hrest
    rwa [List.head?_drop] at this
  have hadd : add w offset j = some (offset + j) := if_pos (by omega)
  have htail : tail = [] ↔ tail.length = 0 := List.length_eq_zero_iff.symm
  rw [drop_numBitsToShift hj, readSize, hadd, Option.bind_some, if_neg (by omega), hget,
    Option.bind_some]
  simp only [and_127, and_128, maxLengthSize]
  refine if_congr ?_ rfl rfl
  rw [htail]
  constructor
  · rintro (h | h)
    · exact .inr (by omega)
    · exact .inl h
  · rintro (h | h | h)
    · exact .inr h
    · exact .inl (by omega)
    · exact .inl (by omega)

/-- The bits of a byte below the fifth fit into a word. -/
lemma shiftLeft_lt (hw : 32 ≤ w) (hj : j ≤ 3) (b : UInt8) :
    ((b.toNat % 128) <<< (7 * j)) % 2 ^ w = (b.toNat % 128) <<< (7 * j) := by
  refine Nat.mod_eq_of_lt ?_
  have hb := Nat.mod_lt b.toNat (show 0 < 128 by decide)
  calc (b.toNat % 128) <<< (7 * j) = b.toNat % 128 * 2 ^ (7 * j) := Nat.shiftLeft_eq _ _
    _ < 128 * 2 ^ (7 * j) := Nat.mul_lt_mul_of_pos_right hb (Nat.two_pow_pos _)
    _ ≤ 128 * 2 ^ 21 := Nat.mul_le_mul_left _ (Nat.pow_le_pow_right (by decide) (by omega))
    _ < 2 ^ 32 := by decide
    _ ≤ 2 ^ w := Nat.pow_le_pow_right (by decide) hw

/-- The inner loop passes bytes that go on, as long as another byte follows.

**Proof sketch.** Induction on the bytes; the size is the value of the bytes read so far, so the
bits of the next byte are added above it. -/
lemma readSize_init (hw : 32 ≤ w) (hlen : input.length < 2 ^ w) {init : Bytes}
    (hinit : ∀ b ∈ init, Continues b) {c : UInt8} {tail : Bytes} :
    ∀ {j size : ℕ}, j + init.length ≤ 4 → input.drop (offset + j) = init ++ c :: tail →
      size < 128 ^ j →
      readSize w input offset (numBitsToShift.drop j) j size =
        readSize w input offset (numBitsToShift.drop (j + init.length)) (j + init.length)
          (size + 128 ^ j * value init) := by
  induction init with
  | nil => intro j size _ _ _; simp
  | cons b init ih =>
    intro j size hj hrest hsize
    obtain ⟨hb, hinit⟩ := List.forall_mem_cons.mp hinit
    rw [List.length_cons] at hj
    have hnext : input.drop (offset + (j + 1)) = init ++ c :: tail := by
      have := congrArg List.tail hrest
      rwa [List.tail_drop] at this
    have hvalue : size + 128 ^ j * (b.toNat % 128) < 128 ^ (j + 1) := by
      have hlt := Nat.mod_lt b.toNat (show 0 < 128 by decide)
      calc size + 128 ^ j * (b.toNat % 128) < 128 ^ j + 128 ^ j * (b.toNat % 128) := by omega
        _ = 128 ^ j * (b.toNat % 128 + 1) := by ring
        _ ≤ 128 ^ j * 128 := Nat.mul_le_mul_left _ hlt
        _ = 128 ^ (j + 1) := (pow_succ _ _).symm
    rw [readSize_step hlen (by omega) hrest, if_neg ?_, shiftLeft_lt hw (by omega),
      or_shiftLeft hsize, ih hinit (by omega) hnext hvalue]
    · rw [List.length_cons, value_cons, pow_succ]
      congr 1
      · congr 1
        omega
      · omega
      · ring
    · simp [hb]
      omega

/-- The inner loop up to the byte behind bytes that go on. -/
lemma readSize_zero (hw : 32 ≤ w) (hlen : input.length < 2 ^ w) {init : Bytes}
    (hinit : ∀ b ∈ init, Continues b) (h4 : init.length ≤ 4) {c : UInt8} {tail : Bytes}
    (hrest : input.drop offset = init ++ c :: tail)
    (hends : ¬ Continues c ∨ init.length = 4 ∨ tail = []) :
    readSize w input offset numBitsToShift 0 0 =
      some (.ok (init.length + 1,
        value init ||| ((c.toNat % 128) <<< (7 * init.length)) % 2 ^ w, c)) := by
  have hstart : input.drop (offset + 0) = init ++ c :: tail := hrest
  have hpass := readSize_init hw hlen hinit (by omega) hstart (Nat.one_pos : 0 < 128 ^ 0)
  have hat : input.drop (offset + init.length) = c :: tail := by
    rw [← List.drop_drop, hrest, List.drop_left]
  simp only [List.drop_zero, Nat.zero_add, pow_zero, Nat.one_mul] at hpass
  rw [hpass, readSize_step hlen h4 hat, if_pos hends]

/-- Reading a length. -/
lemma readLength_of_isLength (hw : 32 ≤ w) (hlen : input.length < 2 ^ w) {p tail : Bytes} {n : ℕ}
    (hp : IsLength p n) (hrest : input.drop offset = p ++ tail) :
    readLength w input offset = some (.ok (p.length, n)) := by
  obtain ⟨init, last, rfl, h4, hinit, hlast, hseven, rfl⟩ := hp
  rw [List.append_assoc, List.singleton_append] at hrest
  have hfit : ((last.toNat % 128) <<< (7 * init.length)) % 2 ^ w =
      (last.toNat % 128) <<< (7 * init.length) := by
    rcases Nat.lt_or_ge init.length 4 with hlt | hge
    · exact shiftLeft_lt hw (by omega) last
    · have hfour : init.length = 4 := by omega
      have := hseven hfour
      have hpow : 2 ^ 32 ≤ 2 ^ w := Nat.pow_le_pow_right (by decide) hw
      refine Nat.mod_eq_of_lt ?_
      rw [hfour, Nat.shiftLeft_eq]
      omega
  have hmask : last &&& 0x80 = 0 := (and_128 last).mpr hlast
  have hlarge : ¬ (init.length + 1 = maxLengthSize ∧ 7 < last.toNat) := by
    rintro ⟨hfive, hgt⟩
    have := hseven (by simpa [maxLengthSize] using hfive)
    omega
  rw [readLength, readSize_zero hw hlen hinit h4 hrest (.inl hlast), hfit,
    or_shiftLeft (value_lt init), Option.map_some]
  simp only [hmask, ne_eq, not_true_eq_false, false_and, if_false, if_neg hlarge,
    List.length_append, List.length_singleton, value_append, value_cons, value_nil, Nat.mul_zero,
    Nat.add_zero]

/-- A length that is cut off. -/
lemma readLength_of_cut (hw : 32 ≤ w) (hlen : input.length < 2 ^ w)
    (hne : input.drop offset ≠ []) (h5 : (input.drop offset).length < 5)
    (hcont : ∀ b ∈ input.drop offset, Continues b) :
    readLength w input offset = some (.error .cannotReadSize) := by
  obtain ⟨init, c, hrest⟩ : ∃ init c, input.drop offset = init ++ [c] :=
    ⟨_, _, (List.dropLast_append_getLast hne).symm⟩
  rw [hrest] at hcont h5
  have h4 : init.length < 4 := by
    rw [List.length_append, List.length_singleton] at h5
    omega
  have hc : Continues c := hcont c (by simp)
  have hmask : ¬ (c &&& 0x80 = 0) := fun h => (and_128 c).mp h hc
  rw [readLength, readSize_zero hw hlen (fun b hb => hcont b (by simp [hb])) h4.le hrest
    (.inr (.inr rfl)), Option.map_some]
  simp only [ne_eq, hmask, not_false_eq_true, true_and, maxLengthSize]
  rw [if_pos (by omega)]

/-- A fifth length byte above seven. -/
lemma readLength_of_large (hw : 32 ≤ w) (hlen : input.length < 2 ^ w) {init tail : Bytes}
    {fifth : UInt8} (h4 : init.length = 4) (hinit : ∀ b ∈ init, Continues b)
    (hfifth : 7 < fifth.toNat) (hrest : input.drop offset = init ++ fifth :: tail) :
    readLength w input offset = some (.error .messageTooLarge) := by
  rw [readLength, readSize_zero hw hlen hinit h4.le hrest (.inr (.inl h4)), Option.map_some]
  simp [h4, maxLengthSize, hfifth]

/-! ### Reading frames -/

/-- One round of the outer loop at a length. -/
lemma parseLoop_step (hw : w = 32 ∨ w = 64) (hlen : input.length < 2 ^ (w - 1)) {p tail : Bytes}
    {n : ℕ} (hp : IsLength p n) (hrest : input.drop offset = p ++ tail) (fuel : ℕ)
    (result : List Bytes) :
    parseLoop w input (fuel + 1) offset result =
      if n ≤ tail.length then
        parseLoop w input fuel (offset + (p.length + n)) (result ++ [tail.take n])
      else some (.error .incompleteMessage) := by
  have hwide : 32 ≤ w := by omega
  have hhalf : 2 ^ (w - 1) + 2 ^ (w - 1) = 2 ^ w := by
    rw [← Nat.two_mul, ← pow_succ']
    congr 1
    omega
  have hbound : 2 ^ 31 ≤ 2 ^ (w - 1) := Nat.pow_le_pow_right (by decide) (by omega)
  have hread := readLength_of_isLength hwide (by omega) hp hrest
  -- a length is below 2 GB, so no sum of it and a position wraps
  have hsmall : n < 2 ^ 31 ∧ 0 < p.length ∧ p.length ≤ 5 := by
    obtain ⟨init, last, rfl, h4, -, hlast, hseven, rfl⟩ := hp
    have hlength : (init ++ [last]).length = init.length + 1 := List.length_append
    refine ⟨?_, by simp, by omega⟩
    rw [value_append, value_cons, value_nil]
    have hinit := value_lt init
    unfold Continues at hlast
    have hcases : init.length = 0 ∨ init.length = 1 ∨ init.length = 2 ∨ init.length = 3 ∨
        init.length = 4 := by omega
    rcases hcases with h | h | h | h | h
    · rw [h] at hinit ⊢
      omega
    · rw [h] at hinit ⊢
      omega
    · rw [h] at hinit ⊢
      omega
    · rw [h] at hinit ⊢
      omega
    · have := hseven h
      rw [h] at hinit ⊢
      omega
  have hinput : input.length - offset = p.length + tail.length := by
    rw [← List.length_drop, hrest, List.length_append]
  have hstart : add w offset p.length = some (offset + p.length) := if_pos (by omega)
  have hstop : add w (offset + p.length) n = some (offset + p.length + n) := if_pos (by omega)
  have hnext : (add w p.length n).bind (add w offset) = some (offset + (p.length + n)) := by
    rw [show add w p.length n = some (p.length + n) from if_pos (by omega), Option.bind_some]
    exact if_pos (by omega)
  rw [parseLoop, if_pos (by omega), hread, Option.bind_some]
  simp only [hstart, hstop, hnext, Option.bind_some]
  have hat : input.drop (offset + p.length) = tail := by
    rw [← List.drop_drop, hrest, List.drop_left]
  by_cases hn : n ≤ tail.length
  · have hslice : slice input (offset + p.length) (offset + p.length + n) =
        some (tail.take n) := by
      rw [slice, if_pos (by omega), hat, Nat.add_sub_cancel_left]
    rw [if_pos (by omega), if_pos hn, hslice, Option.bind_some]
  · rw [if_neg (by omega), if_neg hn]

/-- The outer loop ends behind the input. -/
lemma parseLoop_end (h : input.length ≤ offset) (fuel : ℕ) (result : List Bytes) :
    parseLoop w input fuel offset result = some (.ok result) := by
  cases fuel with
  | zero => rw [parseLoop, if_neg (by omega)]
  | succ fuel => rw [parseLoop, if_neg (by omega)]

/-- The outer loop passes frames, one round for each.

**Proof sketch.** Induction on the frames; the length of a frame is read and its payload is
there. -/
lemma parseLoop_frames (hw : w = 32 ∨ w = 64) (hlen : input.length < 2 ^ (w - 1))
    {good : Bytes} {ps : List Bytes} (hgood : Frames good ps) {bad : Bytes} :
    ∀ {fuel offset : ℕ} {result : List Bytes}, input.drop offset = good ++ bad →
      ps.length ≤ fuel →
      parseLoop w input fuel offset result =
        parseLoop w input (fuel - ps.length) (offset + good.length) (result ++ ps) := by
  induction hgood with
  | nil => intro fuel offset result _ _; simp
  | @cons p payload rest ps hp _ ih =>
    intro fuel offset result hrest hfuel
    obtain ⟨fuel, rfl⟩ : ∃ k, fuel = k + 1 :=
      ⟨fuel - 1, by rw [List.length_cons] at hfuel; omega⟩
    have hsplit : input.drop offset = p ++ (payload ++ (rest ++ bad)) := by
      simpa only [List.append_assoc] using hrest
    have hnext : input.drop (offset + (p.length + payload.length)) = rest ++ bad := by
      rw [← List.drop_drop, hsplit, ← List.append_assoc, ← List.length_append, List.drop_left]
    rw [List.length_cons] at hfuel
    rw [parseLoop_step hw hlen hp hsplit, if_pos (by simp), List.take_left,
      ih hnext (by omega)]
    congr 1
    · rw [List.length_cons]
      omega
    · simp only [List.length_append]
      omega
    · simp

/-- The outer loop at a frame that is bad. -/
lemma parseLoop_bad (hw : w = 32 ∨ w = 64) (hlen : input.length < 2 ^ (w - 1)) {bad : Bytes}
    {e : FramingError} (hbad : BadFrame bad e) (hrest : input.drop offset = bad) (fuel : ℕ)
    (result : List Bytes) :
    parseLoop w input (fuel + 1) offset result = some (.error e) := by
  have hwide : 32 ≤ w := by omega
  have hle : input.length < 2 ^ w :=
    hlen.trans_le (Nat.pow_le_pow_right (by decide) (Nat.sub_le w 1))
  have herror : ∀ {e : FramingError}, bad ≠ [] → readLength w input offset = some (.error e) →
      parseLoop w input (fuel + 1) offset result = some (.error e) := by
    intro e hne hread
    have hpos : offset < input.length := by
      by_contra hge
      exact hne (hrest ▸ List.drop_eq_nil_of_le (by omega))
    rw [parseLoop, if_pos hpos, hread, Option.bind_some]
  cases hbad with
  | cut hne hfive hcont =>
    subst hrest
    exact herror hne (readLength_of_cut hwide hle hne hfive hcont)
  | large hfour hcont hfifth =>
    exact herror (by simp) (readLength_of_large hwide hle hfour hcont hfifth hrest)
  | short hp hshort => rw [parseLoop_step hw hlen hp hrest, if_neg (by omega)]

end Reading

/-- A frame has at least one byte. -/
lemma length_le_of_frames {good : Bytes} {ps : List Bytes} (h : Frames good ps) :
    ps.length ≤ good.length := by
  induction h with
  | nil => simp
  | cons hp _ ih =>
    obtain ⟨init, last, rfl, -⟩ := hp
    simp only [List.length_cons, List.length_append, List.length_nil]
    omega

/-- A bad frame has at least one byte. -/
lemma ne_nil_of_badFrame {bad : Bytes} {e : FramingError} (h : BadFrame bad e) : bad ≠ [] := by
  cases h with
  | cut hne => exact hne
  | large => simp
  | short hp =>
    obtain ⟨init, last, rfl, -⟩ := hp
    simp

/-- Parsing a list of frames. -/
lemma parse_of_frames {w : ℕ} (hw : w = 32 ∨ w = 64) {input : Bytes} {ps : List Bytes}
    (hlen : input.length < 2 ^ (w - 1)) (h : Frames input ps) :
    parse w input = some (.ok ps) := by
  have hall : input.drop 0 = input ++ [] := by simp
  rw [parse, parseLoop_frames hw hlen h hall (length_le_of_frames h), parseLoop_end (by omega),
    List.nil_append]

/-- Parsing frames with a bad frame behind them. -/
lemma parse_of_bad {w : ℕ} (hw : w = 32 ∨ w = 64) {good bad : Bytes} {ps : List Bytes}
    {e : FramingError} (hlen : (good ++ bad).length < 2 ^ (w - 1)) (hgood : Frames good ps)
    (hbad : BadFrame bad e) :
    parse w (good ++ bad) = some (.error e) := by
  have hcount := length_le_of_frames hgood
  have hpos := List.length_pos_iff.mpr (ne_nil_of_badFrame hbad)
  obtain ⟨fuel, hfuel⟩ : ∃ k, (good ++ bad).length - ps.length = k + 1 :=
    ⟨(good ++ bad).length - ps.length - 1, by rw [List.length_append]; omega⟩
  rw [parse, parseLoop_frames hw hlen hgood (List.drop_zero ..)
    (by rw [List.length_append]; omega), hfuel]
  refine parseLoop_bad hw hlen hbad ?_ _ _
  rw [Nat.zero_add, List.drop_left]

/-- Bytes up to the first that does not go on, at most `k` of them. -/
lemma exists_continues (k : ℕ) (bytes : Bytes) :
    ∃ init rest, bytes = init ++ rest ∧ init.length ≤ k ∧ (∀ b ∈ init, Continues b) ∧
      (init.length = k ∨ rest = [] ∨ ∃ c tail, rest = c :: tail ∧ ¬ Continues c) := by
  induction k generalizing bytes with
  | zero => exact ⟨[], bytes, rfl, by simp, by simp, .inl rfl⟩
  | succ k ih =>
    cases bytes with
    | nil => exact ⟨[], [], rfl, by simp, by simp, .inr (.inl rfl)⟩
    | cons b bytes =>
      by_cases hb : Continues b
      · obtain ⟨init, rest, rfl, hlen, hinit, hends⟩ := ih bytes
        refine ⟨b :: init, rest, rfl, by simpa using hlen, ?_, ?_⟩
        · exact List.forall_mem_cons.mpr ⟨hb, hinit⟩
        · exact hends.imp_left fun h => by simpa using h
      · exact ⟨[], b :: bytes, rfl, by simp, by simp, .inr (.inr ⟨b, bytes, rfl, hb⟩)⟩

/-- Every input begins with a length or is bad. -/
lemma exists_isLength_or_bad {bytes : Bytes} (hne : bytes ≠ []) :
    (∃ p n tail, bytes = p ++ tail ∧ IsLength p n) ∨ ∃ e, BadFrame bytes e := by
  obtain ⟨init, rest, rfl, hlen, hinit, hends⟩ := exists_continues 4 bytes
  cases rest with
  | nil =>
    rw [List.append_nil] at hne ⊢
    exact .inr ⟨_, .cut hne (by omega) hinit⟩
  | cons c tail =>
    by_cases hc : Continues c
    · have hfour : init.length = 4 := by
        rcases hends with h | h | ⟨c', tail', h, hc'⟩
        · exact h
        · simp at h
        · obtain ⟨rfl, -⟩ := List.cons.inj h
          exact absurd hc hc'
      have hfifth : 7 < c.toNat := Nat.lt_of_lt_of_le (by decide) hc
      exact .inr ⟨_, .large hfour hinit hfifth⟩
    · by_cases hlarge : init.length = 4 ∧ 7 < c.toNat
      · exact .inr ⟨_, .large hlarge.1 hinit hlarge.2⟩
      · refine .inl ⟨init ++ [c], _, tail, by simp, init, c, rfl, hlen, hinit, hc, ?_, rfl⟩
        intro hfour
        by_contra hgt
        exact hlarge ⟨hfour, by omega⟩

/-- Every input is a list of frames, or frames with a bad frame behind them.

**Proof sketch.** Strong induction on the number of bytes: what is behind the first frame is
shorter. -/
lemma exists_frames_or_bad (input : Bytes) :
    (∃ ps, Frames input ps) ∨
      ∃ good ps bad e, Frames good ps ∧ input = good ++ bad ∧ BadFrame bad e := by
  induction hn : input.length using Nat.strong_induction_on generalizing input with
  | _ m ih =>
    by_cases hne : input = []
    · subst hne
      exact .inl ⟨[], .nil⟩
    rcases exists_isLength_or_bad hne with ⟨p, n, tail, rfl, hp⟩ | ⟨e, hbad⟩
    · by_cases hshort : tail.length < n
      · exact .inr ⟨[], [], _, _, .nil, rfl, .short hp hshort⟩
      · have hpayload : IsLength p (tail.take n).length := by
          rwa [List.length_take, Nat.min_eq_left (by omega)]
        have hsplit : p ++ tail = p ++ tail.take n ++ tail.drop n := by
          rw [List.append_assoc, List.take_append_drop]
        have hpos : 0 < p.length := by
          obtain ⟨init, last, rfl, -⟩ := hp
          simp
        have hlt : (tail.drop n).length < m := by
          rw [← hn, List.length_append, List.length_drop]
          omega
        rw [hsplit]
        rcases ih _ hlt _ rfl with ⟨ps, hps⟩ | ⟨good, ps, bad, e, hgood, hrest, hbad⟩
        · exact .inl ⟨_, .cons hpayload hps⟩
        · refine .inr ⟨_, _, bad, e, .cons hpayload hgood, ?_, hbad⟩
          rw [hrest]
          simp only [List.append_assoc]
    · exact .inr ⟨[], [], input, e, .nil, rfl, hbad⟩

/-- Binary framing is exact, for inputs as long as a slice can be: the written payloads are read
back; an input is accepted exactly if it is a list of frames, with their payloads as the result;
another input is refused for what is wrong with its first bad frame; and every input is answered,
with no index out of bounds and no sum that wraps. -/
theorem parse_exact {w : ℕ} (hw : w = 32 ∨ w = 64) :
    (∀ payloads : List Bytes, (∀ p ∈ payloads, p.length < 2 ^ 31) →
      (payloads.flatMap write).length < 2 ^ (w - 1) →
      parse w (payloads.flatMap write) = some (.ok payloads)) ∧
    ∀ input : Bytes, input.length < 2 ^ (w - 1) →
      (∀ ps, parse w input = some (.ok ps) ↔ Frames input ps) ∧
      (∀ e, parse w input = some (.error e) ↔
        ∃ good ps bad, Frames good ps ∧ input = good ++ bad ∧ BadFrame bad e) ∧
      parse w input ≠ none := by
  refine ⟨fun payloads hsmall hlen => parse_of_frames hw hlen (frames_write hsmall), ?_⟩
  intro input hlen
  rcases exists_frames_or_bad input with ⟨ps, hps⟩ | ⟨good, ps, bad, e, hgood, rfl, hbad⟩
  · have hparse := parse_of_frames hw hlen hps
    refine ⟨fun ps' => ⟨fun h => ?_, parse_of_frames hw hlen⟩, fun e => ⟨fun h => ?_, ?_⟩, ?_⟩
    · rw [hparse] at h
      simp only [Option.some.injEq, Except.ok.injEq] at h
      exact h ▸ hps
    · simp [hparse] at h
    · rintro ⟨good, ps', bad, hgood, rfl, hbad⟩
      exact parse_of_bad hw hlen hgood hbad
    · simp [hparse]
  · have hparse := parse_of_bad hw hlen hgood hbad
    refine ⟨fun ps' => ⟨fun h => ?_, parse_of_frames hw hlen⟩, fun e' => ⟨fun h => ?_, ?_⟩, ?_⟩
    · simp [hparse] at h
    · rw [hparse] at h
      simp only [Option.some.injEq, Except.error.injEq] at h
      exact ⟨good, ps, bad, hgood, rfl, h ▸ hbad⟩
    · rintro ⟨good', ps', bad', hgood', heq, hbad'⟩
      rw [heq] at hlen ⊢
      exact parse_of_bad hw hlen hgood' hbad'
    · simp [hparse]

/-- Two payloads are written and read back, and a cut length is refused. -/
theorem parse_exact_two :
    parse 64 ([[1], [2, 3]].flatMap write) = some (.ok [[1], [2, 3]]) ∧
      parse 32 [1, 7, 0x80] = some (.error .cannotReadSize) := by
  refine ⟨(parse_exact (.inr rfl)).1 [[1], [2, 3]] (by simp) ?_, ?_⟩
  · simp [write, writeSize_eq]
  · refine (((parse_exact (.inl rfl)).2 [1, 7, 0x80] (by decide)).2.1 _).mpr ?_
    have hone : IsLength [1] 1 := ⟨[], 1, rfl, by decide, by simp, by decide, by simp, rfl⟩
    have hgood : Frames ([1] ++ [7] ++ []) [[7]] := .cons hone .nil
    have hcontinues : ∀ b ∈ [0x80], Continues b := by
      intro b hb
      obtain rfl := List.mem_singleton.mp hb
      decide
    exact ⟨[1, 7], [[7]], [0x80], hgood, rfl, .cut (by simp) (by decide) hcontinues⟩

end BinaryMessageFormat

/-! ## The text format -/

namespace TextMessageFormat

/-- `RECORD_SEPARATOR`. -/
def recordSeparator : Char := '\x1e'

/-- `TextMessageFormat::write`. -/
def write (output : String) : String := output ++ String.singleton recordSeparator

/-- `TextMessageFormat::parse`. -/
def parse (input : String) : Except FramingError (List String) :=
  if input.isEmpty ∨ input.toList.getLast? ≠ some recordSeparator then .error .incompleteMessage
  else
    .ok (((input.toList.splitOn recordSeparator).filter fun part => !part.isEmpty).map
      String.ofList)

/-- The parts between the separators of a batch: the messages, and the empty part behind the
last. -/
lemma splitOn_batch {outputs : List String} (h : ∀ o ∈ outputs, recordSeparator ∉ o.toList) :
    ((String.join (outputs.map write)).toList).splitOn recordSeparator =
      outputs.map String.toList ++ [[]] := by
  induction outputs with
  | nil => simp
  | cons o outputs ih =>
    obtain ⟨ho, hos⟩ := List.forall_mem_cons.mp h
    have hbatch : (String.join ((o :: outputs).map write)).toList =
        o.toList ++ recordSeparator :: (String.join (outputs.map write)).toList := by
      simp [String.toList_join, write]
    rw [hbatch, List.splitOn_append_cons_self_of_not_mem ho, ih hos, List.map_cons,
      List.cons_append]

/-- A batch ends with a separator. -/
lemma getLast?_batch {outputs : List String} (hne : outputs ≠ []) :
    (String.join (outputs.map write)).toList.getLast? = some recordSeparator := by
  obtain ⟨init, last, rfl⟩ : ∃ init last, outputs = init ++ [last] :=
    ⟨_, _, (List.dropLast_append_getLast hne).symm⟩
  have hbatch : (String.join ((init ++ [last]).map write)).toList =
      ((String.join (init.map write)).toList ++ last.toList) ++ [recordSeparator] := by
    simp [String.toList_join, write]
  rw [hbatch, List.getLast?_concat]

/-- A batch of messages is split into its messages. -/
lemma parse_write {outputs : List String} (hne : outputs ≠ []) (hfull : ∀ o ∈ outputs, o ≠ "")
    (hsep : ∀ o ∈ outputs, recordSeparator ∉ o.toList) :
    parse (String.join (outputs.map write)) = .ok outputs := by
  have hlast := getLast?_batch hne
  have hempty : ¬ (String.join (outputs.map write)).isEmpty = true := by
    intro h
    rw [String.isEmpty_iff] at h
    rw [h] at hlast
    simp at hlast
  have hparts : (outputs.map String.toList ++ [[]]).filter (fun part => !part.isEmpty) =
      outputs.map String.toList := by
    rw [List.filter_append, List.filter_eq_self.mpr, List.filter_cons_of_neg (by simp),
      List.filter_nil, List.append_nil]
    intro part hpart
    obtain ⟨o, ho, rfl⟩ := List.mem_map.mp hpart
    simpa using hfull o ho
  have hwhole : ¬ ((String.join (outputs.map write)).isEmpty = true ∨
      (String.join (outputs.map write)).toList.getLast? ≠ some recordSeparator) := by
    rintro (h | h)
    · exact hempty h
    · exact h hlast
  rw [parse, if_neg hwhole, splitOn_batch hsep, hparts, List.map_map]
  simp

end TextMessageFormat

end Signalrr.Framing
