import Kaigi.Streaming.Reader
import Kaigi.Wire.FrameDecoder

/-!
# Framing of streams

The frames that come out of a decoder do not depend on how their bytes arrived.
-/

set_option autoImplicit false

namespace Kaigi.Wire

open Streaming

theorem fromBeBytes_toBeBytes {length : Nat} (fits : length < 2 ^ 32) :
    fromBeBytes (toBeBytes length) = length := by
  simp only [fromBeBytes, toBeBytes, List.foldl_cons, List.foldl_nil, UInt8.toNat_ofNat']
  omega

/-- Decoding gives back what was encoded. -/
def Norito.Inverts (norito : Norito) : Prop :=
  ∀ frame payload, norito.toBytes frame = .ok payload →
    norito.decodeFromBytes payload = .ok frame

def Norito.NeverEmpty (norito : Norito) : Prop :=
  ∀ frame payload, norito.toBytes frame = .ok payload → payload ≠ []

namespace FrameDecoder

/-- The declared length of the frame at the front of the buffer. -/
def declaredLen (decoder : FrameDecoder) : Nat :=
  fromBeBytes (decoder.buf.take 4)

/-- The calls of `try_next`. -/
inductive Next (norito : Norito) (decoder : FrameDecoder) :
    Except WireError (Option KaigiFrame) × FrameDecoder → Prop where
  | waits : decoder.bufferLen < 4 ∨ 0 < decoder.declaredLen ∧
      decoder.declaredLen ≤ maxFrameLen ∧ decoder.bufferLen < 4 + decoder.declaredLen →
      Next norito decoder (.ok none, decoder)
  | zeroLength : 4 ≤ decoder.bufferLen → decoder.declaredLen = 0 →
      Next norito decoder (.ok (some (.error ⟨"zero-length frame"⟩)), ⟨decoder.buf.drop 4⟩)
  | oversize : 4 ≤ decoder.bufferLen → maxFrameLen < decoder.declaredLen →
      Next norito decoder (.error (.declaredLengthTooLarge decoder.declaredLen), decoder)
  | rejected {message : String} : 4 + decoder.declaredLen ≤ decoder.bufferLen →
      0 < decoder.declaredLen → decoder.declaredLen ≤ maxFrameLen →
      norito.decodeFromBytes ((decoder.buf.drop 4).take decoder.declaredLen) = .error message →
      Next norito decoder
        (.error (.noritoDecode message), ⟨decoder.buf.drop (4 + decoder.declaredLen)⟩)
  | frame {frame : KaigiFrame} : 4 + decoder.declaredLen ≤ decoder.bufferLen →
      0 < decoder.declaredLen → decoder.declaredLen ≤ maxFrameLen →
      norito.decodeFromBytes ((decoder.buf.drop 4).take decoder.declaredLen) = .ok frame →
      Next norito decoder (.ok (some frame), ⟨decoder.buf.drop (4 + decoder.declaredLen)⟩)

theorem next_tryNext (norito : Norito) (decoder : FrameDecoder) :
    Next norito decoder (decoder.tryNext norito) := by
  unfold tryNext
  split
  · next short => exact .waits (.inl short)
  · next header =>
      have header : 4 ≤ decoder.bufferLen := Nat.le_of_not_lt header
      dsimp only
      split
      · next zero => exact .zeroLength header zero
      · next positive =>
          have positive : 0 < decoder.declaredLen := Nat.pos_of_ne_zero positive
          split
          · next large => exact .oversize header large
          · next fits =>
              have fits : decoder.declaredLen ≤ maxFrameLen := Nat.le_of_not_lt fits
              split
              · next short => exact .waits (.inr ⟨positive, fits, short⟩)
              · next whole =>
                  have whole : 4 + decoder.declaredLen ≤ decoder.bufferLen :=
                    Nat.le_of_not_lt whole
                  split
                  · next rejected => exact .rejected whole positive fits rejected
                  · next accepted => exact .frame whole positive fits accepted

/-- What a call does at the front of the buffer does not depend on what is pushed
behind. -/
theorem tryNext_push {norito : Norito} {decoder after : FrameDecoder}
    {result : Except WireError (Option KaigiFrame)}
    (call : decoder.tryNext norito = (result, after)) (does : result ≠ .ok none)
    (more : List UInt8) : (decoder.push more).tryNext norito = (result, after.push more) := by
  have longer : (decoder.push more).buf.length = decoder.buf.length + more.length :=
    List.length_append
  unfold tryNext at call ⊢
  split at call
  · cases call
    exact absurd rfl does
  · next header =>
      have header : 4 ≤ decoder.buf.length := Nat.le_of_not_lt header
      have front : (decoder.push more).buf.take 4 = decoder.buf.take 4 :=
        List.take_append_of_le_length header
      have behind : ∀ count, count ≤ decoder.buf.length →
          (decoder.push more).buf.drop count = decoder.buf.drop count ++ more :=
        fun count within => List.drop_append_of_le_length within
      rw [if_neg (by omega)]
      dsimp only at call ⊢
      rw [front]
      split at call
      · next zero =>
          cases call
          rw [if_pos zero, behind 4 header]
          rfl
      · next positive =>
          rw [if_neg positive]
          split at call
          · next large =>
              cases call
              rw [if_pos large]
          · next fits =>
              rw [if_neg fits]
              split at call
              · cases call
                exact absurd rfl does
              · next whole =>
                  have whole : 4 + fromBeBytes (decoder.buf.take 4) ≤ decoder.buf.length :=
                    Nat.le_of_not_lt whole
                  have payload : ((decoder.push more).buf.drop 4).take
                      (fromBeBytes (decoder.buf.take 4)) =
                        (decoder.buf.drop 4).take (fromBeBytes (decoder.buf.take 4)) := by
                    rw [behind 4 header]
                    refine List.take_append_of_le_length ?_
                    rw [List.length_drop]
                    omega
                  rw [if_neg (by omega), payload, behind _ whole]
                  split at call <;> cases call <;> rfl

/-- The decoder as a reader of its buffer. -/
def reader (norito : Norito) : Reader UInt8 KaigiFrame WireError :=
  fun buffer => ((FrameDecoder.mk buffer).tryNext norito).map id (·.buf)

/-- Push every chunk and drain after it: the frames in order, the error that ended the
loop, and the bytes that are left. -/
def feed (norito : Norito) (chunks : List (List UInt8)) :
    Option (Drained UInt8 KaigiFrame WireError) :=
  Reader.feed (reader norito) chunks new.buf

theorem reader_eq_iff {norito : Norito} {buffer rest : List UInt8}
    {result : Except WireError (Option KaigiFrame)} :
    reader norito buffer = (result, rest) ↔
      (FrameDecoder.mk buffer).tryNext norito = (result, ⟨rest⟩) := by
  unfold reader
  obtain ⟨outcome, ⟨left⟩⟩ := (FrameDecoder.mk buffer).tryNext norito
  simp

theorem steady_reader (norito : Norito) : (reader norito).Steady where
  waits := by
    intro buffer rest call
    have next := next_tryNext norito ⟨buffer⟩
    rw [reader_eq_iff.mp call] at next
    cases next
    rfl
  consumes := by
    intro buffer item rest call
    have next := next_tryNext norito ⟨buffer⟩
    rw [reader_eq_iff.mp call] at next
    cases next with
    | zeroLength header =>
        have header : 4 ≤ buffer.length := header
        simp only [List.length_drop]
        omega
    | frame whole =>
        have whole : 4 + declaredLen ⟨buffer⟩ ≤ buffer.length := whole
        simp only [List.length_drop]
        omega
  delivers call more := reader_eq_iff.mpr (tryNext_push (reader_eq_iff.mp call) nofun more)
  fails call more := reader_eq_iff.mpr (tryNext_push (reader_eq_iff.mp call) nofun more)

/-! ### Encoded frames -/

theorem encodeFramed_ok {norito : Norito} {frame : KaigiFrame} {bytes : List UInt8}
    (encoded : encodeFramed norito frame = .ok bytes) :
    ∃ payload, norito.toBytes frame = .ok payload ∧ payload.length ≤ maxFrameLen ∧
      bytes = toBeBytes payload.length ++ payload := by
  unfold encodeFramed at encoded
  split at encoded
  · cases encoded
  · next payload accepted =>
      split at encoded
      · cases encoded
      · next fits =>
          cases encoded
          exact ⟨payload, accepted, Nat.le_of_not_lt fits, rfl⟩

/-- An encoded frame at the front of the buffer is the next frame. -/
theorem tryNext_encoded {norito : Norito} (inverts : norito.Inverts)
    (neverEmpty : norito.NeverEmpty) {frame : KaigiFrame} {bytes : List UInt8}
    (encoded : encodeFramed norito frame = .ok bytes) :
    (FrameDecoder.mk bytes).tryNext norito = (.ok (some frame), new) := by
  obtain ⟨payload, accepted, fits, rfl⟩ := encodeFramed_ok encoded
  have nonempty : 0 < payload.length := List.length_pos_iff.mpr (neverEmpty frame payload accepted)
  have small : payload.length < 2 ^ 32 := Nat.lt_of_le_of_lt fits (by decide)
  have total : (toBeBytes payload.length ++ payload).length = 4 + payload.length :=
    List.length_append
  have header : (toBeBytes payload.length ++ payload).take 4 = toBeBytes payload.length := rfl
  have behind : (toBeBytes payload.length ++ payload).drop 4 = payload := rfl
  unfold tryNext
  dsimp only
  rw [total, header, fromBeBytes_toBeBytes small, if_neg (by omega), if_neg (by omega),
    if_neg (by omega), if_neg (by omega), behind, List.take_length, inverts frame payload accepted,
    List.drop_of_length_le (Nat.le_of_eq total)]
  rfl

/-- The decoder reads back a concatenation of encoded frames. -/
theorem drains_encoded {norito : Norito} (inverts : norito.Inverts)
    (neverEmpty : norito.NeverEmpty) {frames : List KaigiFrame} {encodings : List (List UInt8)}
    (encoded : List.Forall₂ (fun frame bytes => encodeFramed norito frame = .ok bytes) frames
      encodings) :
    (reader norito).Drains encodings.flatten ⟨frames, none, []⟩ := by
  induction encoded with
  | nil => exact .waits rfl
  | @cons frame bytes frames encodings first _ ih =>
      rw [List.flatten_cons]
      have call := tryNext_push (tryNext_encoded inverts neverEmpty first) nofun encodings.flatten
      exact .delivers (reader_eq_iff.mpr call) ih

/-- What the calls of `try_next` take out of the buffer. -/
structure TakesFrames (norito : Norito) : Prop where
  frame : ∀ (decoder : FrameDecoder) (frame : KaigiFrame) (after : FrameDecoder),
    decoder.tryNext norito = (.ok (some frame), after) →
      4 + decoder.declaredLen ≤ decoder.bufferLen ∧
        after.buf = decoder.buf.drop (4 + decoder.declaredLen)
  rejected : ∀ (decoder : FrameDecoder) (message : String) (after : FrameDecoder),
    decoder.tryNext norito = (.error (.noritoDecode message), after) →
      4 + decoder.declaredLen ≤ decoder.bufferLen ∧
        after.buf = decoder.buf.drop (4 + decoder.declaredLen)
  oversize : ∀ (decoder : FrameDecoder) (length : Nat) (after : FrameDecoder),
    decoder.tryNext norito = (.error (.declaredLengthTooLarge length), after) → after = decoder
  waits : ∀ (decoder after : FrameDecoder),
    decoder.tryNext norito = (.ok none, after) → after = decoder
  /-- No call fails in another way. -/
  errors : ∀ (decoder : FrameDecoder) (error : WireError) (after : FrameDecoder),
    decoder.tryNext norito = (.error error, after) →
      (∃ message, error = .noritoDecode message) ∨
        ∃ length, error = .declaredLengthTooLarge length

theorem takesFrames (norito : Norito) : TakesFrames norito where
  frame decoder frame after call := by
    have next := next_tryNext norito decoder
    rw [call] at next
    cases next with
    | zeroLength header zero =>
        rw [zero]
        exact ⟨header, rfl⟩
    | frame whole => exact ⟨whole, rfl⟩
  rejected decoder message after call := by
    have next := next_tryNext norito decoder
    rw [call] at next
    cases next with
    | rejected whole => exact ⟨whole, rfl⟩
  oversize decoder length after call := by
    have next := next_tryNext norito decoder
    rw [call] at next
    cases next
    rfl
  waits decoder after call := by
    have next := next_tryNext norito decoder
    rw [call] at next
    cases next
    rfl
  errors decoder error after call := by
    have next := next_tryNext norito decoder
    rw [call] at next
    cases next with
    | oversize => exact .inr ⟨_, rfl⟩
    | rejected => exact .inl ⟨_, rfl⟩

end FrameDecoder

/-- Encoded frames come out as they went in however their bytes are cut; any stream gives
the same results however it is cut; and every drain ends. -/
theorem framing_chunks (norito : Norito) :
    (norito.Inverts → norito.NeverEmpty → ∀ frames encodings chunks,
      List.Forall₂ (fun frame bytes => encodeFramed norito frame = .ok bytes) frames encodings →
      chunks.flatten = encodings.flatten →
        FrameDecoder.feed norito chunks = some ⟨frames, none, []⟩) ∧
    (∀ first second : List (List UInt8), first.flatten = second.flatten →
      (FrameDecoder.feed norito first).map (fun fed => (fed.items, fed.error)) =
        (FrameDecoder.feed norito second).map fun fed => (fed.items, fed.error)) ∧
    FrameDecoder.TakesFrames norito ∧
    ∀ decoder : FrameDecoder, ∃ drained, (FrameDecoder.reader norito).drain
      (decoder.bufferLen + 1) decoder.buf = some drained := by
  have steady := FrameDecoder.steady_reader norito
  refine ⟨fun inverts neverEmpty frames encodings chunks encoded same => ?_,
    fun first second same => steady.feed_congr same rfl, FrameDecoder.takesFrames norito,
    fun decoder => steady.drain_ends (Nat.lt_succ_self _)⟩
  obtain ⟨fed, whole, feeds, drains, items, error, rest⟩ := steady.feed_whole chunks
    (show FrameDecoder.reader norito [] = (.ok none, []) from rfl)
  rw [List.nil_append, same] at drains
  have equal := drains.unique (FrameDecoder.drains_encoded inverts neverEmpty encoded)
  subst equal
  obtain ⟨fedItems, fedError, fedRest⟩ := fed
  cases items
  cases error
  cases rest rfl
  exact feeds

/-- A codec for pings of one byte. -/
def pingNorito : Norito where
  toBytes := fun frame =>
    match frame with
    | .ping ping => if ping.nonce < 256 then .ok [UInt8.ofNat ping.nonce] else .error "nonce"
    | _ => .error "not a ping"
  decodeFromBytes := fun payload =>
    match payload with
    | [byte] => .ok (.ping ⟨byte.toNat⟩)
    | _ => .error "not a ping"

/-- Two pings in pieces of one byte, with an empty piece in between. -/
theorem framing_chunks_pings :
    FrameDecoder.feed pingNorito [[0], [0], [0], [1], [], [42], [0, 0], [0], [1, 7]] =
      some ⟨[.ping ⟨42⟩, .ping ⟨7⟩], none, []⟩ := by
  refine (framing_chunks pingNorito).1 ?_ ?_ _ [[0, 0, 0, 1, 42], [0, 0, 0, 1, 7]] _ ?_ rfl
  · intro frame payload encoded
    cases frame with
    | ping ping =>
        obtain ⟨nonce⟩ := ping
        simp only [pingNorito] at encoded ⊢
        split at encoded
        · next small =>
            cases encoded
            simp [Nat.mod_eq_of_lt small]
        · cases encoded
    | _ => cases encoded
  · intro frame payload encoded
    cases frame with
    | ping ping =>
        simp only [pingNorito] at encoded
        split at encoded
        · cases encoded
          exact List.cons_ne_nil _ _
        · cases encoded
    | _ => cases encoded
  · exact .cons rfl (.cons rfl .nil)

end Kaigi.Wire
