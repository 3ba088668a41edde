import Mathlib.Algebra.Group.Nat.Defs
import Kaigi.Wire.Frame

/-!
# Framing

Frames travel as a big-endian 32-bit length followed by their norito encoding.
The norito codec is a third-party package and stays a parameter.
-/

set_option autoImplicit false

namespace Kaigi.Wire

/-- The third-party codec of frame payloads. -/
structure Norito where
  toBytes : KaigiFrame → Except String (List UInt8)
  decodeFromBytes : List UInt8 → Except String KaigiFrame

inductive WireError where
  | noritoEncode (message : String)
  | frameTooLarge (length : Nat)
  | declaredLengthTooLarge (length : Nat)
  | noritoDecode (message : String)

def WireError.message : WireError → String
  | .noritoEncode _ => "norito encode"
  | .frameTooLarge length => s!"frame too large: {length} bytes (max {maxFrameLen})"
  | .declaredLengthTooLarge length =>
      s!"declared frame length {length} exceeds MAX_FRAME_LEN {maxFrameLen}"
  | .noritoDecode _ => "norito decode"

/-- The four bytes of `length` in network order. -/
def toBeBytes (length : Nat) : List UInt8 :=
  [UInt8.ofNat (length / 2 ^ 24), UInt8.ofNat (length / 2 ^ 16), UInt8.ofNat (length / 2 ^ 8),
    UInt8.ofNat length]

def fromBeBytes (bytes : List UInt8) : Nat :=
  bytes.foldl (fun length byte => length * 256 + byte.toNat) 0

def encodeFramed (norito : Norito) (frame : KaigiFrame) : Except WireError (List UInt8) :=
  match norito.toBytes frame with
  | .error message => .error (.noritoEncode message)
  | .ok payload =>
      if payload.length > maxFrameLen then .error (.frameTooLarge payload.length)
      else .ok (toBeBytes payload.length ++ payload)

structure FrameDecoder where
  buf : List UInt8

namespace FrameDecoder

def new : FrameDecoder := ⟨[]⟩

def push (decoder : FrameDecoder) (data : List UInt8) : FrameDecoder :=
  ⟨decoder.buf ++ data⟩

/-- The next frame, with the decoder after the call. A payload that norito
rejects has already been drained from the buffer, an oversized one has not. -/
def tryNext (norito : Norito) (decoder : FrameDecoder) :
    Except WireError (Option KaigiFrame) × FrameDecoder :=
  if decoder.buf.length < 4 then (.ok none, decoder)
  else
    let length := fromBeBytes (decoder.buf.take 4)
    if length = 0 then
      (.ok (some (.error ⟨"zero-length frame"⟩)), ⟨decoder.buf.drop 4⟩)
    else if length > maxFrameLen then (.error (.declaredLengthTooLarge length), decoder)
    else if decoder.buf.length < 4 + length then (.ok none, decoder)
    else
      let rest : FrameDecoder := ⟨decoder.buf.drop (4 + length)⟩
      match norito.decodeFromBytes ((decoder.buf.drop 4).take length) with
      | .error message => (.error (.noritoDecode message), rest)
      | .ok frame => (.ok (some frame), rest)

def bufferLen (decoder : FrameDecoder) : Nat :=
  decoder.buf.length

end FrameDecoder

end Kaigi.Wire
