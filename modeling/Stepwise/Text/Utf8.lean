/-!
# Bytes of texts

Reading UTF-8. Bytes that are no text are told by their place: either a character is
complete but malformed, or the bytes end in the middle of a character.
-/

namespace Stepwise.Text

/-- Why bytes are no text. The text before the place is well-formed. -/
inductive Utf8Fault
  /-- The bytes end before the character at this place does. -/
  | incomplete (place : Nat)
  /-- A number of bytes at this place can begin no character that goes on as it does. -/
  | malformed (length place : Nat)
deriving DecidableEq, Repr

def Utf8Fault.message : Utf8Fault → String
  | incomplete place => "incomplete utf-8 byte sequence from index " ++ toString place
  | malformed length place =>
      "invalid utf-8 sequence of " ++ toString length ++ " bytes from index " ++ toString place

/-- The number of bytes that follow the first byte of a character. -/
def tailLength? (first : Nat) : Option Nat :=
  if first < 0x80 then some 0
  else if 0xC2 ≤ first ∧ first ≤ 0xDF then some 1
  else if 0xE0 ≤ first ∧ first ≤ 0xEF then some 2
  else if 0xF0 ≤ first ∧ first ≤ 0xF4 then some 3
  else none

/-- The least and the greatest byte that may follow a first byte. They exclude numbers
that have a shorter form, surrogates, and numbers that are no code points. -/
def secondBounds (first : Nat) : Nat × Nat :=
  if first = 0xE0 then (0xA0, 0xBF)
  else if first = 0xED then (0x80, 0x9F)
  else if first = 0xF0 then (0x90, 0xBF)
  else if first = 0xF4 then (0x80, 0x8F)
  else (0x80, 0xBF)

/-- What a first byte contributes to the number of its character. -/
def firstBits (first : Nat) : Nat :=
  if first < 0x80 then first
  else if first < 0xE0 then first - 0xC0
  else if first < 0xF0 then first - 0xE0
  else first - 0xF0

/-- Reads the bytes that follow a first byte. `bounds` are those of the next byte,
`code` is the number read so far, and `taken` counts the bytes it was read from. -/
def takeTail (place : Nat) :
    Nat → Nat × Nat → Nat → Nat → List UInt8 → Except Utf8Fault (Nat × List UInt8)
  | 0, _, code, _, bytes => .ok (code, bytes)
  | _ + 1, _, _, _, [] => .error (.incomplete place)
  | n + 1, (low, high), code, taken, b :: bytes =>
      if low ≤ b.toNat ∧ b.toNat ≤ high then
        takeTail place n (0x80, 0xBF) (64 * code + (b.toNat - 0x80)) (taken + 1) bytes
      else .error (.malformed taken place)

theorem length_le_of_takeTail {place n : Nat} {bounds : Nat × Nat} {code taken : Nat}
    {bytes : List UInt8} {found : Nat × List UInt8}
    (h : takeTail place n bounds code taken bytes = .ok found) :
    found.2.length ≤ bytes.length := by
  induction n generalizing bounds code taken bytes with
  | zero =>
      simp only [takeTail, Except.ok.injEq] at h
      exact Nat.le_of_eq (by rw [← h])
  | succ n ih =>
      cases bytes with
      | nil => exact absurd h (by simp [takeTail])
      | cons b bytes =>
          simp only [takeTail] at h
          split at h
          · exact Nat.le_trans (ih h) (Nat.le_succ _)
          · exact absurd h (by simp)

/-- Reads bytes as a text; `place` is the place of the first one. -/
def decodeFrom (place : Nat) : List UInt8 → Except Utf8Fault (List Char)
  | [] => .ok []
  | first :: bytes =>
      match tailLength? first.toNat with
      | none => .error (.malformed 1 place)
      | some n =>
          match h : takeTail place n (secondBounds first.toNat) (firstBits first.toNat) 1
            bytes with
          | .error fault => .error fault
          | .ok (code, rest) =>
              have : rest.length ≤ bytes.length := length_le_of_takeTail h
              (decodeFrom (place + n + 1) rest).map (Char.ofNat code :: ·)
termination_by bytes => bytes.length
decreasing_by
  simp only [List.length_cons]
  omega

def decode (bytes : List UInt8) : Except Utf8Fault (List Char) :=
  decodeFrom 0 bytes

end Stepwise.Text
