/-!
Standard base64: three bytes are four symbols, a last group of one or two bytes is padded, and the
spare bits of its last symbol are zero. Decoding refuses everything else and says what is wrong.
-/
namespace SecretKeeper

abbrev Bytes := List UInt8

namespace Base64

def pad : UInt8 := 61

def symbol (n : Nat) : UInt8 :=
  if n < 26 then UInt8.ofNat (65 + n)
  else if n < 52 then UInt8.ofNat (71 + n)
  else if n < 62 then UInt8.ofNat (n - 4)
  else if n = 62 then 43
  else 47

def value? (b : UInt8) : Option Nat :=
  let n := b.toNat
  if 65 ≤ n ∧ n ≤ 90 then some (n - 65)
  else if 97 ≤ n ∧ n ≤ 122 then some (n - 71)
  else if 48 ≤ n ∧ n ≤ 57 then some (n + 4)
  else if n = 43 then some 62
  else if n = 47 then some 63
  else none

def encode : Bytes → Bytes
  | a :: b :: c :: rest =>
    symbol (a.toNat / 4) :: symbol (a.toNat % 4 * 16 + b.toNat / 16) ::
      symbol (b.toNat % 16 * 4 + c.toNat / 64) :: symbol (c.toNat % 64) :: encode rest
  | [a, b] =>
    [symbol (a.toNat / 4), symbol (a.toNat % 4 * 16 + b.toNat / 16), symbol (b.toNat % 16 * 4), pad]
  | [a] => [symbol (a.toNat / 4), symbol (a.toNat % 4 * 16), pad, pad]
  | [] => []

inductive Fault where
  | foreignSymbol (byte : UInt8) (offset : Nat)
  | length (symbols : Nat)
  | spareBits (byte : UInt8) (offset : Nat)
  | padding
  deriving DecidableEq, Repr

namespace Fault

def message : Fault → String
  | foreignSymbol b i => s!"Invalid symbol {b.toNat}, offset {i}."
  | length n => s!"Invalid input length: {n}"
  | spareBits b i => s!"Invalid last symbol {b.toNat}, offset {i}."
  | padding => "Invalid padding"

end Fault

def valueAt (offset : Nat) (b : UInt8) : Except Fault Nat :=
  match value? b with
  | some v => .ok v
  | none => .error (.foreignSymbol b offset)

def valuesFrom (offset : Nat) : Bytes → Except Fault (List Nat)
  | [] => .ok []
  | b :: rest => do
    let v ← valueAt offset b
    let vs ← valuesFrom (offset + 1) rest
    return v :: vs

def joined (v w x y : Nat) : Bytes :=
  [UInt8.ofNat (v * 4 + w / 16), UInt8.ofNat (w % 16 * 16 + x / 4), UInt8.ofNat (x % 4 * 64 + y)]

def joinedLast : List Nat → Option Bytes
  | [v, w] => if w % 16 = 0 then some [UInt8.ofNat (v * 4 + w / 16)] else none
  | [v, w, x] =>
    if x % 4 = 0 then some [UInt8.ofNat (v * 4 + w / 16), UInt8.ofNat (w % 16 * 16 + x / 4)]
    else none
  | [v, w, x, y] => some (joined v w x y)
  | _ => some []

def decodeLast (offset : Nat) (last : Bytes) : Except Fault Bytes := do
  let symbols := last.takeWhile (· != pad)
  let pads := last.dropWhile (· != pad)
  let values ← valuesFrom offset symbols
  if pads ≠ [] ∧ (symbols.length < 2 ∨ pads.any (· != pad)) then
    .error (.foreignSymbol pad (offset + symbols.length))
  else if last ≠ [] ∧ symbols.length < 2 then .error (.length (offset + symbols.length))
  else if last.length % 4 ≠ 0 then .error .padding
  else
    match joinedLast values with
    | some bytes => .ok bytes
    | none => .error (.spareBits (symbols.getLastD pad) (offset + symbols.length - 1))

def decodeFrom (offset : Nat) : Bytes → Except Fault Bytes
  | a :: b :: c :: d :: e :: rest => do
    let v ← valueAt offset a
    let w ← valueAt (offset + 1) b
    let x ← valueAt (offset + 2) c
    let y ← valueAt (offset + 3) d
    let bytes ← decodeFrom (offset + 4) (e :: rest)
    return joined v w x y ++ bytes
  | last => decodeLast offset last

/-- A foreign byte that stands alone after the last full group is reported before all else. -/
def decode (text : Bytes) : Except Fault Bytes :=
  let last := text.getLastD pad
  if text.length % 4 = 1 ∧ last ≠ pad ∧ value? last = none then
    .error (.foreignSymbol last (text.length - 1))
  else decodeFrom 0 text

end Base64
end SecretKeeper
