import SecretKeeper.Decimal
import SecretKeeper.Json.Text

/-!
JSON numbers: first the numeral by its grammar, then its value. Whole numbers keep their value if
64 bits hold it; all others become floating point, from as many leading digits as 64 bits hold.
-/
namespace SecretKeeper.Json

def isDigit (b : UInt8) : Bool := 48 ≤ b && b ≤ 57

def digitValue (b : UInt8) : Nat := b.toNat - 48

structure Numeral where
  negative : Bool
  whole : Bytes
  fraction : Bytes
  exponent : Option (Bool × Bytes)
  deriving DecidableEq, Repr

def readWhole (atEnd : Cause) : Bytes → Except Fault (Bytes × Bytes)
  | [] => .error (.here atEnd [])
  | b :: rest =>
    if b = 48 then
      if (rest.head?.map isDigit).getD false then .error (.next .badNumber rest)
      else .ok ([b], rest)
    else if isDigit b then .ok (b :: rest.takeWhile isDigit, rest.dropWhile isDigit)
    else .error (.here .badNumber rest)

def readFraction (atEnd : Cause) : Bytes → Except Fault (Bytes × Bytes)
  | 46 :: rest =>
    match rest with
    | [] => .error (.here atEnd [])
    | b :: _ =>
      if isDigit b then .ok (rest.takeWhile isDigit, rest.dropWhile isDigit)
      else .error (.next .badNumber rest)
  | s => .ok ([], s)

def readSign : Bytes → Bool × Bytes
  | 43 :: rest => (false, rest)
  | 45 :: rest => (true, rest)
  | s => (false, s)

def readExponent (atEnd : Cause) (s : Bytes) : Except Fault (Option (Bool × Bytes) × Bytes) :=
  match s with
  | [] => .ok (none, [])
  | b :: rest =>
    if b = 101 ∨ b = 69 then
      match (readSign rest).2 with
      | [] => .error (.here atEnd [])
      | d :: rest' =>
        if isDigit d then
          .ok (some ((readSign rest).1, d :: rest'.takeWhile isDigit), rest'.dropWhile isDigit)
        else .error (.here .badNumber rest')
    else .ok (none, s)

def readNumeral (atEnd : Cause) (s : Bytes) : Except Fault (Numeral × Bytes) := do
  let negative := s.head? = some 45
  let (whole, s) ← readWhole atEnd (if negative then s.tail else s)
  let (fraction, s) ← readFraction atEnd s
  let (exponent, s) ← readExponent atEnd s
  return (⟨negative, whole, fraction, exponent⟩, s)

inductive Number where
  | whole (value : Int)
  | real (value : Float)

def maxWord : Nat := Nat.pow 2 64 - 1

def gather (ceiling : Nat) (n : Nat) : Bytes → Nat × Bytes
  | [] => (n, [])
  | d :: ds =>
    if n * 10 + digitValue d ≤ ceiling then gather ceiling (n * 10 + digitValue d) ds
    else (n, d :: ds)

def powerOfTen (n : Nat) : Float := Float.ofScientific 1 false n

/-- The float times a power of ten, a quotient for negative powers; none if it grows too large.
Powers beyond the range of floats are taken in steps. -/
def scaled (x : Float) (power : Int) : Option Float :=
  if power < -308 then
    if x == 0 then some x else scaled (x / powerOfTen 308) (power + 308)
  else if power < 0 then some (x / powerOfTen power.natAbs)
  else if power ≤ 308 then
    let y := x * powerOfTen power.toNat
    if y.isInf then none else some y
  else if x == 0 then some x
  else none
termination_by power.natAbs

namespace Numeral

def significand (n : Numeral) : Nat × Int :=
  let (m, dropped) := gather maxWord 0 n.whole
  let (m, unused) := gather maxWord m n.fraction
  (m, (dropped.length : Int) - (n.fraction.length - unused.length : Nat))

def signed (n : Numeral) (x : Float) : Number := .real (if n.negative then -x else x)

def toFloat (n : Numeral) (power : Int) (rest : Bytes) : Except Fault Number :=
  match scaled (UInt64.ofNat n.significand.1).toFloat power with
  | some x => .ok (n.signed x)
  | none => .error (.here .numberTooLarge rest)

/-- A whole number that fits: a natural number of 64 bits, or the negative of one up to `2 ^ 63`.
Minus zero does not count as whole. -/
def toWhole? (n : Numeral) : Option Int :=
  match gather maxWord 0 n.whole, n.fraction, n.exponent with
  | (m, []), [], none =>
    if n.negative then if 0 < m ∧ m ≤ Nat.pow 2 63 then some (-m) else none
    else some m
  | _, _, _ => none

/-- The value of a numeral; `rest` is what follows it. An exponent past 31 bits is too large, or
makes zero if it is negative or there is no other digit than zero. -/
def value (n : Numeral) (rest : Bytes) : Except Fault Number :=
  match n.toWhole? with
  | some k => .ok (.whole k)
  | none =>
    match n.exponent with
    | none => n.toFloat n.significand.2 rest
    | some (negative, digits) =>
      match gather (Nat.pow 2 31 - 1) 0 digits with
      | (power, []) => n.toFloat (n.significand.2 + if negative then -(power : Int) else power) rest
      | (_, _ :: unread) =>
        if n.significand.1 ≠ 0 ∧ ¬ negative then .error (.here .numberTooLarge (unread ++ rest))
        else .ok (n.signed 0)

end Numeral

def readNumber (s : Bytes) : Except Fault (Number × Bytes) := do
  let (numeral, rest) ← readNumeral .endInValue s
  let number ← numeral.value rest
  return (number, rest)

theorem dropDigits_length (s : Bytes) : (s.dropWhile isDigit).length ≤ s.length :=
  (List.dropWhile_sublist _).length_le

theorem readWhole_length {c : Cause} {s t rest : Bytes} (h : readWhole c s = .ok (t, rest)) :
    rest.length < s.length := by
  unfold readWhole at h
  split at h
  · cases h
  · next b r =>
    have := dropDigits_length r
    split at h
    · split at h
      · cases h
      · cases h
        simp
    · split at h
      · cases h
        simp only [List.length_cons]
        omega
      · cases h

theorem readFraction_length {c : Cause} {s t rest : Bytes} (h : readFraction c s = .ok (t, rest)) :
    rest.length ≤ s.length := by
  unfold readFraction at h
  split at h
  · next r =>
    have := dropDigits_length r
    split at h
    · cases h
    · split at h
      · cases h
        simp only [List.length_cons] at *
        omega
      · cases h
  · cases h
    exact Nat.le_refl _

theorem readSign_length (s : Bytes) : (readSign s).2.length ≤ s.length := by
  unfold readSign
  split <;> simp

theorem readExponent_length {c : Cause} {s rest : Bytes} {e : Option (Bool × Bytes)}
    (h : readExponent c s = .ok (e, rest)) : rest.length ≤ s.length := by
  unfold readExponent at h
  split at h
  · cases h
    exact Nat.le_refl _
  · next b r =>
    have hsign := readSign_length r
    split at h
    · split at h
      · cases h
      · next d r' hr =>
        have := dropDigits_length r'
        rw [hr] at hsign
        split at h
        · cases h
          simp only [List.length_cons] at *
          omega
        · cases h
    · cases h
      exact Nat.le_refl _

theorem readNumeral_length {c : Cause} {s rest : Bytes} {n : Numeral}
    (h : readNumeral c s = .ok (n, rest)) : rest.length < s.length := by
  simp only [readNumeral, bind_eq_ok] at h
  obtain ⟨⟨whole, s₁⟩, h₁, ⟨fraction, s₂⟩, h₂, ⟨exponent, s₃⟩, h₃, h⟩ := h
  have := readWhole_length h₁
  have := readFraction_length h₂
  have := readExponent_length h₃
  have : (if s.head? = some 45 then s.tail else s).length ≤ s.length := by
    split <;> simp
  obtain ⟨-, rfl⟩ := Prod.mk.inj (Except.ok.inj h)
  simp only at *
  omega

theorem readNumber_length {s rest : Bytes} {n : Number} (h : readNumber s = .ok (n, rest)) :
    rest.length < s.length := by
  simp only [readNumber, bind_eq_ok] at h
  obtain ⟨⟨numeral, s₁⟩, h₁, number, -, h⟩ := h
  obtain ⟨-, rfl⟩ := Prod.mk.inj (Except.ok.inj h)
  exact readNumeral_length h₁

end SecretKeeper.Json
