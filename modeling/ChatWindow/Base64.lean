import ChatWindow.Value

/-!
# Base 64

Three bytes are written as four letters. Reading is strict: nothing but letters, padding only at
the end, and as much of it as is needed to fill the last group.
-/

namespace ChatWindow.Base64

inductive Fault where
  | notAscii
  | leadingPadding
  | discontinuousPadding
  | excess
  | alphabet
  | oneOver (letters : Nat)
  | padding
  deriving DecidableEq

def Fault.message : Fault → String
  | .notAscii => "string argument should contain only ASCII characters"
  | .leadingPadding => "Leading padding not allowed"
  | .discontinuousPadding => "Discontinuous padding not allowed"
  | .excess => "Excess data after padding"
  | .alphabet => "Only base64 data is allowed"
  | .oneOver letters =>
    s!"Invalid base64-encoded string: number of data characters ({letters}) cannot be 1 more " ++
      "than a multiple of 4"
  | .padding => "Incorrect padding"

def letter (n : Nat) : Char :=
  if n < 26 then Char.ofNat (65 + n)
  else if n < 52 then Char.ofNat (71 + n)
  else if n < 62 then Char.ofNat (n - 4)
  else if n = 62 then '+' else '/'

def letterValue? (c : Char) : Option Nat :=
  if 'A' ≤ c ∧ c ≤ 'Z' then some (c.toNat - 65)
  else if 'a' ≤ c ∧ c ≤ 'z' then some (c.toNat - 71)
  else if '0' ≤ c ∧ c ≤ '9' then some (c.toNat + 4)
  else if c = '+' then some 62
  else if c = '/' then some 63
  else none

def encodeChars : Bytes → List Char
  | [] => []
  | [a] => [letter (a.toNat / 4), letter (a.toNat % 4 * 16), '=', '=']
  | [a, b] =>
    [letter (a.toNat / 4), letter (a.toNat % 4 * 16 + b.toNat / 16),
      letter (b.toNat % 16 * 4), '=']
  | a :: b :: c :: rest =>
    letter (a.toNat / 4) :: letter (a.toNat % 4 * 16 + b.toNat / 16) ::
      letter (b.toNat % 16 * 4 + c.toNat / 64) :: letter (c.toNat % 64) :: encodeChars rest

def encode (b : Bytes) : String := String.ofList (encodeChars b)

/-- Reads on after `n` letters and `pads` padding signs. `carry` are the bits of the last letter
that belong to the next byte. -/
def decodeFrom (n carry pads : Nat) : List Char → Except Fault Bytes
  | [] =>
    if n % 4 = 0 then .ok []
    else if n % 4 = 1 then .error (.oneOver n)
    else .error .padding
  | c :: rest =>
    if c = '=' then
      if 2 ≤ n % 4 ∧ 4 ≤ n % 4 + pads + 1 then
        if rest.isEmpty then .ok [] else .error .excess
      else decodeFrom n carry (pads + 1) rest
    else
      match letterValue? c with
      | none => .error .alphabet
      | some d =>
        if 0 < pads then .error .discontinuousPadding
        else if n % 4 = 0 then decodeFrom (n + 1) d 0 rest
        else if n % 4 = 1 then
          (decodeFrom (n + 1) (d % 16) 0 rest).map (UInt8.ofNat (carry * 4 + d / 16) :: ·)
        else if n % 4 = 2 then
          (decodeFrom (n + 1) (d % 4) 0 rest).map (UInt8.ofNat (carry * 16 + d / 4) :: ·)
        else (decodeFrom (n + 1) 0 0 rest).map (UInt8.ofNat (carry * 64 + d) :: ·)

def decodeChars (cs : List Char) : Except Fault Bytes :=
  if cs.any (fun c => 128 ≤ c.toNat) then .error .notAscii
  else if cs.head? = some '=' then .error .leadingPadding
  else decodeFrom 0 0 0 cs

def decode : Text → Except Fault Bytes
  | .plain s => decodeChars s.toList
  | .broken _ => .error .notAscii

end ChatWindow.Base64
