import SecretKeeper.Problem
import SecretKeeper.Secret.Basic
import SecretKeeper.Text.Numeral

/-!
Permission bits. The mode of a secret is an octal number, of which the last nine bits count.
-/
namespace SecretKeeper.Secret

open Text

def defaultMode : Nat := 0o440

def modeCeiling : Nat := Nat.pow 2 32 - 1

def modeReason (mode : String) (fault : NumeralFault) : String :=
  s!"mode '{mode}' is not octal: {fault.message}"

def modeValue (s : Secret) : Except Problem Nat :=
  if s.mode = "" then .ok defaultMode
  else
    match readNumeral 8 modeCeiling s.mode.toList with
    | .ok n => .ok (n % 0o1000)
    | .error fault => .error (.invalidSecret s.name (modeReason s.mode fault))

end SecretKeeper.Secret
