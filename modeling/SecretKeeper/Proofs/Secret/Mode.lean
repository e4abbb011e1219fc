import Mathlib.Data.List.Induction
import Mathlib.Data.Nat.Digits.Defs
import SecretKeeper.Proofs.Text.Numeral
import SecretKeeper.Secret.Mode

/-!
Which modes mean which permission bits, and at which character all other modes go wrong. A mode is
read from its front, so that the first offence decides what is said about it, be there others
behind it.
-/
namespace SecretKeeper.Secret

open Text

/-- What octal digits are worth, of which the last one counts once. -/
def octalWorth (digits : List Char) : Nat :=
  Nat.ofDigits 8 (digits.reverse.map fun d => d.toNat - '0'.toNat)

theorem octalWorth_eq (digits : List Char) : octalWorth digits = Nat.ofDigitChars 8 digits 0 := by
  induction digits using List.reverseRecOn with
  | nil => rfl
  | append_singleton front d ih =>
    rw [octalWorth] at ih ⊢
    rw [List.reverse_append, List.reverse_singleton, List.singleton_append, List.map_cons,
      Nat.ofDigits_cons, ih, Nat.ofDigitChars_append, Nat.ofDigitChars_cons, Nat.ofDigitChars_nil]
    exact Nat.add_comm _ _

/-- The permission bits that a mode means: the default if it is empty, the last nine bits of an
octal numeral if 32 bits hold it. -/
inductive Permits : List Char → Nat → Prop where
  | unset : Permits [] 0o440
  | octal {mode : List Char} (present : withoutPlus mode ≠ [])
      (octal : ∀ d ∈ withoutPlus mode, IsDigit 8 d)
      (fits : octalWorth (withoutPlus mode) ≤ 4294967295) :
      Permits mode (octalWorth (withoutPlus mode) % 512)

/-- What is said about digits that are no mode. All digits before the character that decides it
are octal, and 32 bits hold them. -/
inductive Offence (digits : List Char) : String → Prop where
  | missing (none : digits = []) : Offence digits "invalid digit found in string"
  | badDigit {front back : List Char} {c : Char} (split : digits = front ++ c :: back)
      (octal : ∀ d ∈ front, IsDigit 8 d) (fits : octalWorth front ≤ 4294967295)
      (bad : ¬IsDigit 8 c) : Offence digits "invalid digit found in string"
  | tooLarge {front back : List Char} {c : Char} (split : digits = front ++ c :: back)
      (octal : ∀ d ∈ front, IsDigit 8 d) (fits : octalWorth front ≤ 4294967295)
      (digit : IsDigit 8 c) (beyond : 4294967295 < octalWorth (front ++ [c])) :
      Offence digits "number too large to fit in target type"

theorem modeCeiling_eq : modeCeiling = 4294967295 := by decide

theorem permits_bound {mode : List Char} {bits : Nat} (permits : Permits mode bits) :
    bits ≤ 0o777 := by
  cases permits with
  | unset => decide
  | octal => omega

theorem offence_iff (digits : List Char) (said : String) :
    Offence digits said ↔ digits = [] ∧ said = NumeralFault.badDigit.message ∨
      ∃ front c back fault, digits = front ++ c :: back ∧
        StopsAt 8 modeCeiling 0 front c fault ∧ said = fault.message := by
  rw [modeCeiling_eq]
  constructor
  · intro offence
    cases offence with
    | missing none => exact Or.inl ⟨none, rfl⟩
    | badDigit split octal fits bad =>
      rw [octalWorth_eq] at fits
      exact Or.inr ⟨_, _, _, _, split, ⟨octal, fits, Or.inl ⟨bad, rfl⟩⟩, rfl⟩
    | tooLarge split octal fits digit beyond =>
      rw [octalWorth_eq] at fits beyond
      exact Or.inr ⟨_, _, _, _, split, ⟨octal, fits, Or.inr ⟨digit, beyond, rfl⟩⟩, rfl⟩
  · rintro (⟨none, rfl⟩ | ⟨front, c, back, fault, split, ⟨octal, fits, cause⟩, rfl⟩)
    · exact .missing none
    · rcases cause with ⟨bad, rfl⟩ | ⟨digit, beyond, rfl⟩ <;> rw [← octalWorth_eq] at fits
      · exact .badDigit split octal fits bad
      · rw [← octalWorth_eq] at beyond
        exact .tooLarge split octal fits digit beyond

section Read
variable {mode : List Char} (present : mode ≠ [])
include present

theorem readMode_ok_iff (bits : Nat) :
    (∃ n, readNumeral 8 modeCeiling mode = .ok n ∧ bits = n % 0o1000) ↔ Permits mode bits := by
  have read := readDigits_eq_ok_iff (show 0 < 8 by decide) (withoutPlus mode)
    (Nat.zero_le modeCeiling)
  rw [readNumeral_signed present]
  constructor
  · rintro ⟨n, read', rfl⟩
    split at read'
    · cases read'
    · rename_i digits
      obtain ⟨octal, worth, fits⟩ := (read n).mp read'
      rw [← octalWorth_eq] at worth
      rw [modeCeiling_eq, ← worth] at fits
      rw [← worth]
      exact .octal digits octal fits
  · intro permits
    cases permits with
    | unset => exact absurd rfl present
    | octal digits octal fits =>
      rw [← modeCeiling_eq] at fits
      rw [if_neg digits]
      exact ⟨_, (read _).mpr ⟨octal, (octalWorth_eq _).symm, fits⟩, rfl⟩

theorem readMode_error_iff (said : String) :
    (∃ fault, readNumeral 8 modeCeiling mode = .error fault ∧ said = fault.message) ↔
      Offence (withoutPlus mode) said := by
  rw [readNumeral_signed present, offence_iff]
  constructor
  · rintro ⟨fault, failed, rfl⟩
    split at failed
    · rename_i none
      cases failed
      exact Or.inl ⟨none, rfl⟩
    · obtain ⟨front, c, back, split, stops⟩ := stops_of_readDigits (Nat.zero_le modeCeiling) failed
      exact Or.inr ⟨front, c, back, fault, split, stops, rfl⟩
  · rintro (⟨none, rfl⟩ | ⟨front, c, back, fault, split, stops, rfl⟩)
    · exact ⟨.badDigit, if_pos none, rfl⟩
    · refine ⟨fault, ?_, rfl⟩
      rw [split, if_neg (List.append_ne_nil_of_right_ne_nil front (List.cons_ne_nil c back))]
      exact readDigits_stops (by decide) stops back

end Read

theorem modeValue_ok_iff (s : Secret) (bits : Nat) :
    s.modeValue = .ok bits ↔ Permits s.mode.toList bits := by
  by_cases empty : s.mode = ""
  · have none : s.mode.toList = [] := by simp [empty]
    rw [modeValue, if_pos empty, none]
    constructor
    · rintro ⟨⟩
      exact .unset
    · intro permits
      cases permits with
      | unset => rfl
      | octal present => exact absurd rfl present
  · have present : s.mode.toList ≠ [] := by simpa using empty
    rw [modeValue, if_neg empty, ← readMode_ok_iff present]
    cases readNumeral 8 modeCeiling s.mode.toList with
    | ok n => simp [eq_comm]
    | error fault => simp

theorem modeValue_error_iff (s : Secret) (problem : Problem) :
    s.modeValue = .error problem ↔ s.mode ≠ "" ∧ ∃ said, Offence (withoutPlus s.mode.toList) said ∧
      problem = .invalidSecret s.name ("mode '" ++ s.mode ++ "' is not octal: " ++ said) := by
  by_cases empty : s.mode = ""
  · rw [modeValue, if_pos empty]
    simp [empty]
  · have present : s.mode.toList ≠ [] := by simpa using empty
    rw [modeValue, if_neg empty, and_iff_right empty]
    simp only [← readMode_error_iff present]
    cases readNumeral 8 modeCeiling s.mode.toList with
    | ok n => simp
    | error fault =>
      constructor
      · rintro ⟨⟩
        exact ⟨_, ⟨fault, rfl, rfl⟩, rfl⟩
      · rintro ⟨_, ⟨_, ⟨⟩, rfl⟩, rfl⟩
        rfl

/-- A mode means the permission bits that it permits, which are never more than nine. Every other
mode is an error that tells the secret, the mode, and what is wrong at the first character at which
something is. -/
theorem modes_are_octal (s : Secret) :
    (∀ bits, s.modeValue = .ok bits ↔ Permits s.mode.toList bits ∧ bits ≤ 0o777) ∧
    ∀ problem, s.modeValue = .error problem ↔ s.mode ≠ "" ∧
      ∃ said, Offence (withoutPlus s.mode.toList) said ∧
        problem = .invalidSecret s.name ("mode '" ++ s.mode ++ "' is not octal: " ++ said) := by
  refine ⟨fun bits => ?_, modeValue_error_iff s⟩
  rw [modeValue_ok_iff, and_iff_left_of_imp permits_bound]

example : ({ Secret.create "x" .empty .epoch with mode := "+400000000009" }).modeValue =
    .error (.invalidSecret "x"
      "mode '+400000000009' is not octal: number too large to fit in target type") := by
  decide +kernel

end SecretKeeper.Secret
