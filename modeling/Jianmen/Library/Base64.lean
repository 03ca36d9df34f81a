import Jianmen.Library.Loop
import Mathlib.Data.List.Basic

/-!
# Base64

The usual decoders read a text in quanta of four characters, the last of which may be padded, and
leave line breaks out.  A strict decoder wants the bits that a short quantum leaves over to be zero.
A stream is decoded one buffer at a time, so that padding ends a buffer rather than the text.
-/

namespace Jianmen.Base64

open List

structure Encoding where
  padded : Bool
  strict : Bool

/-- The six bits that a character stands for. -/
def sextet (byte : UInt8) : Option ℕ :=
  if 0x41 ≤ byte ∧ byte ≤ 0x5A then some (byte.toNat - 0x41)
  else if 0x61 ≤ byte ∧ byte ≤ 0x7A then some (byte.toNat - 0x47)
  else if 0x30 ≤ byte ∧ byte ≤ 0x39 then some (byte.toNat + 0x04)
  else if byte = 0x2B then some 62
  else if byte = 0x2F then some 63
  else none

def isPad (byte : UInt8) : Bool :=
  byte = 0x3D

def isBreak (byte : UInt8) : Bool :=
  byte = 0x0A || byte = 0x0D

def octets : List ℕ → List UInt8
  | [a, b] => [(a * 4 + b / 16).toUInt8]
  | [a, b, c] => [(a * 4 + b / 16).toUInt8, (b % 16 * 16 + c / 4).toUInt8]
  | [a, b, c, d] =>
    [(a * 4 + b / 16).toUInt8, (b % 16 * 16 + c / 4).toUInt8, (c % 4 * 64 + d).toUInt8]
  | _ => []

/-- The bits that a short quantum leaves over. -/
def leftover : List ℕ → ℕ
  | [_, b] => b % 16
  | [_, _, c] => c % 4
  | _ => 0

/-- The last quantum, which ends at an offset and has nothing behind it. -/
def decodeLast (encoding : Encoding) (stop : ℕ) (sextets : List ℕ) (rest : List UInt8) :
    Except ℕ (List UInt8) :=
  if encoding.strict ∧ leftover sextets ≠ 0 then .error (stop - (4 - sextets.length))
  else if rest ≠ [] then .error stop
  else .ok (octets sextets)

/-- Decode a text without line breaks from an offset on.  An error is the offset of what is wrong.
-/
def decode (encoding : Encoding) : ℕ → List UInt8 → Except ℕ (List UInt8)
  | _, [] => .ok []
  | offset, first :: rest =>
    match sextet first, rest with
    | none, _ => .error offset
    | some _, [] => .error offset
    | some a, second :: rest =>
      match sextet second, rest with
      | none, _ => .error (offset + 1)
      | some b, [] =>
        if encoding.padded then .error offset else decodeLast encoding (offset + 2) [a, b] []
      | some b, third :: rest =>
        match sextet third, rest with
        | none, [] => .error (if encoding.padded ∧ isPad third then offset + 3 else offset + 2)
        | none, fourth :: rest =>
          if encoding.padded ∧ isPad third ∧ isPad fourth then
            decodeLast encoding (offset + 4) [a, b] rest
          else .error (offset + 2)
        | some c, [] =>
          if encoding.padded then .error offset else decodeLast encoding (offset + 3) [a, b, c] []
        | some c, fourth :: rest =>
          match sextet fourth with
          | none =>
            if encoding.padded ∧ isPad fourth then
              decodeLast encoding (offset + 4) [a, b, c] rest
            else .error (offset + 3)
          | some d =>
            match decode encoding (offset + 4) rest with
            | .error reason => .error reason
            | .ok data => .ok (octets [a, b, c, d] ++ data)

/-- Decode a text as a whole. -/
def decodeString (encoding : Encoding) (text : List UInt8) : Option (List UInt8) :=
  (decode encoding 0 (text.filter (!isBreak ·))).toOption

/-! ## Streams -/

inductive DecodeError where
  | corrupt (offset : ℕ)
  | unexpectedEOF
  deriving DecidableEq

/-- A decoder on its way through a text. -/
structure Decoder where
  buffer : List UInt8 := []
  text : List UInt8
  data : List UInt8 := []

def bufferSize : ℕ := 1024

/-- Fill the buffer and decode the whole quanta in it. -/
def read (encoding : Encoding) (decoder : Decoder) :
    Loop.Pass Decoder (Except DecodeError (List UInt8)) :=
  match decoder.text with
  | [] => .leave (if decoder.buffer = [] then .ok decoder.data else .error .unexpectedEOF)
  | text =>
    let room := bufferSize - decoder.buffer.length
    let buffer := decoder.buffer ++ (text.take room).filter (!isBreak ·)
    let whole := buffer.length / 4 * 4
    match decode encoding 0 (buffer.take whole) with
    | .error offset => .leave (.error (.corrupt offset))
    | .ok data =>
      .again { buffer := buffer.drop whole, text := text.drop room, data := decoder.data ++ data }

/-- Everything that a stream decodes to. -/
def decodeStream (encoding : Encoding) (text : List UInt8) : Except DecodeError (List UInt8) :=
  Loop.run (read encoding) (fun decoder => decoder.text.length) (.error .unexpectedEOF)
    { text := text }

/-! ## Sizes -/

variable {encoding : Encoding} {data : List UInt8}

theorem decodeLast_length {stop : ℕ} {sextets : List ℕ} {rest : List UInt8}
    (decoded : decodeLast encoding stop sextets rest = .ok data) :
    data.length ≤ sextets.length := by
  unfold decodeLast at decoded
  split at decoded
  · cases decoded
  · split at decoded
    · cases decoded
    · cases decoded
      unfold octets
      split <;> simp

/-- What is decoded is no longer than the text. -/
theorem decode_length {offset : ℕ} {text : List UInt8}
    (decoded : decode encoding offset text = .ok data) : data.length ≤ text.length := by
  fun_induction decode encoding offset text generalizing data with
  | case1 =>
    cases decoded
    exact Nat.le_refl _
  | case6 | case8 | case11 | case12 =>
    have short := decodeLast_length decoded
    simp only [length_cons, length_nil] at short ⊢
    omega
  | case15 _ _ _ _ _ _ _ _ _ _ rest _ _ _ _ decoded_rest ih =>
    cases decoded
    have shorter := ih decoded_rest
    simp only [octets, length_append, length_cons, length_nil]
    omega
  | _ => cases decoded

/-- The decoder holds part of a quantum, and what it has decoded fits into what it has read. -/
def Sized (total : ℕ) (decoder : Decoder) : Prop :=
  decoder.buffer.length < 4 ∧
    decoder.data.length + decoder.buffer.length + decoder.text.length ≤ total

theorem read_sized {total : ℕ} {decoder : Decoder} (sized : Sized total decoder) :
    Loop.Proceeds (Sized total) (fun result => ∀ data, result = .ok data → data.length ≤ total)
      (fun decoder => decoder.text.length) decoder (read encoding decoder) := by
  obtain ⟨short, fits⟩ := sized
  unfold read
  split
  · intro data returned
    split at returned
    · cases returned
      omega
    · cases returned
  · rename_i nonempty
    have some_text := length_pos_iff.mpr nonempty
    simp only
    split
    · nofun
    · rename_i data decoded
      have shorter := decode_length decoded
      have filtered := length_filter_le (!isBreak ·)
        (decoder.text.take (bufferSize - decoder.buffer.length))
      simp only [length_take, length_append] at shorter filtered
      have taken : 0 < bufferSize - decoder.buffer.length := by
        unfold bufferSize
        omega
      simp only [Loop.Proceeds, Sized, length_drop, length_append]
      omega

theorem decodeStream_length {text : List UInt8} (decoded : decodeStream encoding text = .ok data) :
    data.length ≤ text.length :=
  Loop.run_proceeds (fun _ sized => read_sized sized)
    (show Sized text.length { text := text } from ⟨by simp, by simp⟩) data decoded

end Jianmen.Base64
