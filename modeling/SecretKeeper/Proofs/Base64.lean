import Mathlib.Tactic.ByContra
import SecretKeeper.Base64
import SecretKeeper.Json.Text

/-!
Base64 texts read back, and no others. Three bytes are four numbers below 64, and each of these has
a symbol of its own; what is left at the end leaves spare bits, which are zero.
-/
namespace SecretKeeper.Base64

theorem value_symbol {n : Nat} (small : n < 64) : value? (symbol n) = some n := by
  have all : ∀ n < 64, value? (symbol n) = some n := by decide
  exact all n small

theorem symbol_ne_pad {n : Nat} (small : n < 64) : symbol n ≠ pad := by
  have all : ∀ n < 64, symbol n ≠ pad := by decide
  exact all n small

theorem symbol_ascii {n : Nat} (small : n < 64) : (symbol n).toNat < 128 := by
  have all : ∀ n < 64, (symbol n).toNat < 128 := by decide
  exact all n small

theorem valueAt_symbol {n : Nat} (small : n < 64) (offset : Nat) :
    valueAt offset (symbol n) = .ok n := by
  rw [valueAt, value_symbol small]

theorem toNat_lt (b : UInt8) : b.toNat < 256 := UInt8.toNat_lt b

theorem byte_of_parts {b : UInt8} {n : Nat} (parts : n = b.toNat) : UInt8.ofNat n = b := by
  rw [parts, UInt8.ofNat_toNat]

theorem joined_parts (a b c : UInt8) :
    joined (a.toNat / 4) (a.toNat % 4 * 16 + b.toNat / 16) (b.toNat % 16 * 4 + c.toNat / 64)
      (c.toNat % 64) = [a, b, c] := by
  have := toNat_lt a
  have := toNat_lt b
  have := toNat_lt c
  rw [joined, byte_of_parts (b := a) (by omega), byte_of_parts (b := b) (by omega),
    byte_of_parts (b := c) (by omega)]

theorem values_symbols (offset : Nat) {values : List Nat} (small : ∀ n ∈ values, n < 64) :
    valuesFrom offset (values.map symbol) = .ok values := by
  induction values generalizing offset with
  | nil => rfl
  | cons n rest ih =>
    rw [List.map_cons, valuesFrom, valueAt_symbol (small n List.mem_cons_self),
      ih (offset + 1) fun m member => small m (List.mem_cons_of_mem n member)]
    rfl

theorem decodeLast_group (offset : Nat) {values : List Nat} {pads : Nat} {bytes : Bytes}
    (small : ∀ n ∈ values, n < 64) (two : 2 ≤ values.length) (full : values.length + pads = 4)
    (joins : joinedLast values = some bytes) :
    decodeLast offset (values.map symbol ++ List.replicate pads pad) = .ok bytes := by
  have plain : ∀ b ∈ values.map symbol, (b != pad) = true := by
    intro b member
    obtain ⟨n, known, rfl⟩ := List.mem_map.mp member
    exact bne_iff_ne.mpr (symbol_ne_pad (small n known))
  have symbols : (values.map symbol ++ List.replicate pads pad).takeWhile (· != pad) =
      values.map symbol := by
    rw [List.takeWhile_append_of_pos plain]
    cases pads <;> simp [List.replicate_succ]
  have rest : (values.map symbol ++ List.replicate pads pad).dropWhile (· != pad) =
      List.replicate pads pad := by
    rw [List.dropWhile_append_of_pos plain]
    cases pads <;> simp [List.replicate_succ]
  have padding : (List.replicate pads pad).any (· != pad) = false := by
    simp
  have short : ¬values.length < 2 := by omega
  simp only [decodeLast, bind, Except.bind, symbols, rest, values_symbols offset small, padding,
    List.length_map, List.length_append, List.length_replicate, full, joins, short]
  simp

theorem decodeFrom_encode (offset : Nat) (bytes : Bytes) :
    decodeFrom offset (encode bytes) = .ok bytes := by
  induction bytes using encode.induct generalizing offset with
  | case1 a b c rest ih =>
    have := toNat_lt a
    have := toNat_lt b
    have := toNat_lt c
    have read := joined_parts a b c
    obtain ⟨v, first⟩ : ∃ v, v = a.toNat / 4 := ⟨_, rfl⟩
    obtain ⟨w, second⟩ : ∃ w, w = a.toNat % 4 * 16 + b.toNat / 16 := ⟨_, rfl⟩
    obtain ⟨x, third⟩ : ∃ x, x = b.toNat % 16 * 4 + c.toNat / 64 := ⟨_, rfl⟩
    obtain ⟨y, fourth⟩ : ∃ y, y = c.toNat % 64 := ⟨_, rfl⟩
    have small : v < 64 ∧ w < 64 ∧ x < 64 ∧ y < 64 := by omega
    rw [← first, ← second, ← third, ← fourth] at read
    rw [encode, ← first, ← second, ← third, ← fourth]
    have more := ih (offset + 4)
    -- The last group is decoded by its own rule even if it is full.
    cases others : encode rest with
    | nil =>
      rw [others] at more
      have nothing : decodeFrom (offset + 4) [] = .ok [] := rfl
      obtain rfl : rest = [] := Except.ok.inj (more.symm.trans nothing)
      have group : decodeLast offset ([v, w, x, y].map symbol ++ List.replicate 0 pad) =
          .ok (joined v w x y) :=
        decodeLast_group offset (by simp [small]) (by simp) rfl rfl
      rw [← read]
      exact group
    | cons e others' =>
      rw [others] at more
      simp only [decodeFrom, bind, Except.bind, valueAt_symbol, small, more, read]
      rfl
  | case2 a b =>
    have := toNat_lt a
    have := toNat_lt b
    have group : decodeLast offset ([a.toNat / 4, a.toNat % 4 * 16 + b.toNat / 16,
        b.toNat % 16 * 4].map symbol ++ List.replicate 1 pad) = .ok [a, b] := by
      refine decodeLast_group offset ?_ (by simp) rfl ?_
      · simp only [List.mem_cons, List.not_mem_nil, or_false, forall_eq_or_imp, forall_eq]
        omega
      · rw [joinedLast, if_pos (by omega), byte_of_parts (b := a) (by omega),
          byte_of_parts (b := b) (by omega)]
    exact group
  | case3 a =>
    have := toNat_lt a
    have group : decodeLast offset ([a.toNat / 4, a.toNat % 4 * 16].map symbol ++
        List.replicate 2 pad) = .ok [a] := by
      refine decodeLast_group offset ?_ (by simp) rfl ?_
      · simp only [List.mem_cons, List.not_mem_nil, or_false, forall_eq_or_imp, forall_eq]
        omega
      · rw [joinedLast, if_pos (by omega), byte_of_parts (b := a) (by omega)]
    exact group
  | case4 => rfl

theorem length_encode (bytes : Bytes) : (encode bytes).length % 4 = 0 := by
  induction bytes using encode.induct with
  | case1 a b c rest ih =>
    simp only [encode, List.length_cons]
    omega
  | case2 | case3 | case4 => simp [encode]

theorem decode_encode (bytes : Bytes) : decode (encode bytes) = .ok bytes := by
  have whole := length_encode bytes
  rw [decode, if_neg (by omega), decodeFrom_encode]

theorem encode_ascii (bytes : Bytes) : ∀ b ∈ encode bytes, b.toNat < 128 := by
  induction bytes using encode.induct with
  | case1 a b c rest ih =>
    have := toNat_lt a
    have := toNat_lt b
    have := toNat_lt c
    simp only [encode, List.forall_mem_cons]
    refine ⟨symbol_ascii ?_, symbol_ascii ?_, symbol_ascii ?_, symbol_ascii ?_, ih⟩ <;> omega
  | case2 a b =>
    have := toNat_lt a
    have := toNat_lt b
    simp only [encode, List.forall_mem_cons]
    refine ⟨symbol_ascii ?_, symbol_ascii ?_, symbol_ascii ?_, by decide, by simp⟩ <;> omega
  | case3 a =>
    have := toNat_lt a
    simp only [encode, List.forall_mem_cons]
    refine ⟨symbol_ascii ?_, symbol_ascii ?_, by decide, by decide, by simp⟩ <;> omega
  | case4 => simp [encode]

/-! The other way round: a text that is read is what is written of its bytes. -/

open Json (bind_eq_ok)

theorem symbol_of_value {b : UInt8} {n : Nat} (value : value? b = some n) :
    symbol n = b ∧ n < 64 := by
  have all : ∀ m < 256, (value? (UInt8.ofNat m)).all
      fun n => decide (symbol n = UInt8.ofNat m ∧ n < 64) := by decide +kernel
  have here := all b.toNat (toNat_lt b)
  rw [UInt8.ofNat_toNat, value, Option.all_some] at here
  exact of_decide_eq_true here

theorem symbol_of_valueAt {offset : Nat} {b : UInt8} {n : Nat} (read : valueAt offset b = .ok n) :
    symbol n = b ∧ n < 64 := by
  rw [valueAt] at read
  cases value : value? b with
  | none =>
    rw [value] at read
    cases read
  | some m =>
    rw [value] at read
    cases read
    exact symbol_of_value value

theorem symbols_of_values {offset : Nat} {s : Bytes} {values : List Nat}
    (read : valuesFrom offset s = .ok values) :
    values.map symbol = s ∧ ∀ n ∈ values, n < 64 := by
  induction s generalizing offset values with
  | nil =>
    cases read
    exact ⟨rfl, by simp⟩
  | cons b rest ih =>
    simp only [valuesFrom, bind_eq_ok] at read
    obtain ⟨n, value, more, others, all⟩ := read
    cases all
    obtain ⟨first, small⟩ := symbol_of_valueAt value
    obtain ⟨symbols, smalls⟩ := ih others
    exact ⟨by rw [List.map_cons, first, symbols], List.forall_mem_cons.mpr ⟨small, smalls⟩⟩

theorem toNat_byte {n : Nat} (small : n < 256) : (UInt8.ofNat n).toNat = n :=
  UInt8.toNat_ofNat_of_lt small

theorem leading_byte {v w : Nat} (small : v < 64 ∧ w < 64) :
    (UInt8.ofNat (v * 4 + w / 16)).toNat = v * 4 + w / 16 := toNat_byte (by omega)

theorem middle_byte {w x : Nat} (small : w < 64 ∧ x < 64) :
    (UInt8.ofNat (w % 16 * 16 + x / 4)).toNat = w % 16 * 16 + x / 4 := toNat_byte (by omega)

theorem encode_joined {v w x y : Nat} (small : v < 64 ∧ w < 64 ∧ x < 64 ∧ y < 64) (rest : Bytes) :
    encode (joined v w x y ++ rest) =
      symbol v :: symbol w :: symbol x :: symbol y :: encode rest := by
  have last : (UInt8.ofNat (x % 4 * 64 + y)).toNat = x % 4 * 64 + y := toNat_byte (by omega)
  simp only [joined, List.cons_append, List.nil_append, encode,
    leading_byte ⟨small.1, small.2.1⟩, middle_byte ⟨small.2.1, small.2.2.1⟩, last]
  congr <;> omega

theorem encode_joinedLast {values : List Nat} (small : ∀ n ∈ values, n < 64)
    (two : 2 ≤ values.length) {pads : Nat} (full : values.length + pads = 4) {bytes : Bytes}
    (joins : joinedLast values = some bytes) :
    encode bytes = values.map symbol ++ List.replicate pads pad := by
  match values, small, two, full, joins with
  | [v, w], small, _, full, joins =>
    obtain rfl : pads = 2 := by simp at full; omega
    simp only [List.forall_mem_cons] at small
    obtain ⟨spare, bytes⟩ := Option.ite_none_right_eq_some.mp joins
    obtain rfl := Option.some.inj bytes
    simp only [encode, leading_byte ⟨small.1, small.2.1⟩]
    have first : (v * 4 + w / 16) / 4 = v := by omega
    have second : (v * 4 + w / 16) % 4 * 16 = w := by omega
    rw [first, second]
    rfl
  | [v, w, x], small, _, full, joins =>
    obtain rfl : pads = 1 := by simp at full; omega
    simp only [List.forall_mem_cons] at small
    obtain ⟨spare, bytes⟩ := Option.ite_none_right_eq_some.mp joins
    obtain rfl := Option.some.inj bytes
    simp only [encode, leading_byte ⟨small.1, small.2.1⟩, middle_byte ⟨small.2.1, small.2.2.1⟩]
    have first : (v * 4 + w / 16) / 4 = v := by omega
    have second : (v * 4 + w / 16) % 4 * 16 + (w % 16 * 16 + x / 4) / 16 = w := by omega
    have third : (w % 16 * 16 + x / 4) % 16 * 4 = x := by omega
    rw [first, second, third]
    rfl
  | [v, w, x, y], small, _, full, joins =>
    obtain rfl : pads = 0 := by simp at full; omega
    simp only [List.forall_mem_cons] at small
    obtain rfl := Option.some.inj joins
    exact encode_joined ⟨small.1, small.2.1, small.2.2.1, small.2.2.2.1⟩ []
  | _ :: _ :: _ :: _ :: _ :: _, _, _, full, _ =>
    simp at full
    omega

/-- What is asked of a last group: symbols with values, then pads only, four in all or none. -/
theorem decodeLast_ok {offset : Nat} {last bytes : Bytes}
    (read : decodeLast offset last = .ok bytes) :
    ∃ values, valuesFrom offset (last.takeWhile (· != pad)) = .ok values ∧
      joinedLast values = some bytes ∧ (∀ b ∈ last.dropWhile (· != pad), b = pad) ∧
      (last ≠ [] → 2 ≤ (last.takeWhile (· != pad)).length) ∧ last.length % 4 = 0 := by
  simp only [decodeLast, bind_eq_ok] at read
  obtain ⟨values, found, read⟩ := read
  split at read
  · cases read
  rename_i padded
  split at read
  · cases read
  rename_i enough
  split at read
  · cases read
  rename_i whole
  split at read
  · cases read
    rename_i joins
    refine ⟨values, found, joins, fun b member => ?_, fun some => ?_, Decidable.not_not.mp whole⟩
    · by_contra other
      have foreign : (last.dropWhile (· != pad)).any (· != pad) = true :=
        List.any_eq_true.mpr ⟨b, member, bne_iff_ne.mpr other⟩
      exact padded ⟨List.ne_nil_of_mem member, Or.inr foreign⟩
    · exact Nat.le_of_not_lt fun few => enough ⟨some, few⟩
  · cases read

theorem encode_of_decodeLast {offset : Nat} {last bytes : Bytes} (short : last.length ≤ 4)
    (read : decodeLast offset last = .ok bytes) : encode bytes = last := by
  obtain ⟨values, found, joins, padded, enough, whole⟩ := decodeLast_ok read
  obtain ⟨symbols, small⟩ := symbols_of_values found
  cases last with
  | nil =>
    cases found
    cases joins
    rfl
  | cons b more =>
    have parts : (b :: more).takeWhile (· != pad) ++ (b :: more).dropWhile (· != pad) =
        b :: more := List.takeWhile_append_dropWhile
    have two := enough (List.cons_ne_nil b more)
    have lengths := congrArg List.length parts
    rw [List.length_append, List.length_cons] at lengths
    rw [List.length_cons] at short whole
    rw [← symbols, List.length_map] at two lengths
    have full : values.length + ((b :: more).dropWhile (· != pad)).length = 4 := by omega
    rw [encode_joinedLast small two full joins, symbols, ← List.eq_replicate_of_mem padded, parts]

theorem encode_of_decodeFrom {offset : Nat} {s bytes : Bytes}
    (read : decodeFrom offset s = .ok bytes) : encode bytes = s := by
  fun_induction decodeFrom offset s generalizing bytes with
  | case1 offset a b c d e rest ih =>
    simp only [bind_eq_ok] at read
    obtain ⟨v, first, w, second, x, third, y, fourth, more, others, all⟩ := read
    cases all
    obtain ⟨rfl, v_small⟩ := symbol_of_valueAt first
    obtain ⟨rfl, w_small⟩ := symbol_of_valueAt second
    obtain ⟨rfl, x_small⟩ := symbol_of_valueAt third
    obtain ⟨rfl, y_small⟩ := symbol_of_valueAt fourth
    rw [encode_joined ⟨v_small, w_small, x_small, y_small⟩, ih others]
  | case2 offset last short =>
    apply encode_of_decodeLast ?_ read
    match last, short with
    | [], _ | [_], _ | [_, _], _ | [_, _, _], _ | [_, _, _, _], _ => simp
    | a :: b :: c :: d :: e :: rest, short => exact (short a b c d e rest rfl).elim

theorem encode_of_decode {text bytes : Bytes} (read : decode text = .ok bytes) :
    encode bytes = text := by
  simp only [decode] at read
  split at read
  · cases read
  · exact encode_of_decodeFrom read

end SecretKeeper.Base64
