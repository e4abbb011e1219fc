import SecretKeeper.Proofs.Secret.Schema

/-!
Contents and their texts. A base64 text is said bit by bit, without the functions that write and
read it: each symbol has six bits, and together these are the bits of the bytes and zeros. Every
content has exactly one such text, and nothing else is read as a content.
-/
namespace SecretKeeper

open Json Text

namespace Base64

def alphabet : List Char :=
  "ABCDEFGHIJKLMNOPQRSTUVWXYZabcdefghijklmnopqrstuvwxyz0123456789+/".toList

def bits (width n : Nat) : List Bool := (List.range width).reverse.map n.testBit

/-- The symbols of the text have six bits each. These are the bits of the bytes, with two zeros
for each of the pads that stand behind the symbols. -/
def StandsFor (text : List Char) (bytes : Bytes) : Prop :=
  ∃ (groups : List (Fin 64)) (pads : Nat), pads ≤ 2 ∧
    text = groups.map (fun g : Fin 64 => alphabet.getD g '=') ++ List.replicate pads '=' ∧
    groups.flatMap (fun g : Fin 64 => bits 6 g) =
      bytes.flatMap (fun b => bits 8 b.toNat) ++ List.replicate (2 * pads) false

/-! Bits of sums and quotients. -/

theorem length_bits (width n : Nat) : (bits width n).length = width := by
  simp [bits]

theorem bits_add (v w n : Nat) : bits (w + v) n = bits v (n / Nat.pow 2 w) ++ bits w n := by
  have high : (fun i => n.testBit (w + i)) = (n / Nat.pow 2 w).testBit := by
    funext i
    have shifted : n >>> w = n / Nat.pow 2 w := Nat.shiftRight_eq_div_pow n w
    rw [← shifted, Nat.testBit_shiftRight]
  rw [bits, List.range_add, List.reverse_append, List.map_append, ← List.map_reverse, List.map_map]
  exact congrArg (fun f => (List.range v).reverse.map f ++ bits w n) high

theorem bits_mod (w n : Nat) : bits w (n % Nat.pow 2 w) = bits w n := by
  apply List.map_congr_left
  intro i member
  have inside : i < w := List.mem_range.mp (List.mem_reverse.mp member)
  have low : (n % Nat.pow 2 w).testBit i = (decide (i < w) && n.testBit i) :=
    Nat.testBit_mod_two_pow n w i
  rw [low, decide_eq_true inside, Bool.true_and]

theorem bits_congr {w n m : Nat} (same : n % Nat.pow 2 w = m % Nat.pow 2 w) :
    bits w n = bits w m := by
  rw [← bits_mod, same, bits_mod]

theorem bits_second {n z : Nat} (small : z < 16) :
    bits 6 (n % 4 * 16 + z) = bits 2 n ++ bits 4 z := by
  have parts : bits 6 (n % 4 * 16 + z) =
      bits 2 ((n % 4 * 16 + z) / 16) ++ bits 4 (n % 4 * 16 + z) := bits_add 2 4 _
  have high : (n % 4 * 16 + z) / 16 % 4 = n % 4 := by omega
  have low : (n % 4 * 16 + z) % 16 = z % 16 := by omega
  rw [parts, bits_congr (w := 2) high, bits_congr (w := 4) low]

theorem bits_third {n z : Nat} (small : z < 4) :
    bits 6 (n % 16 * 4 + z) = bits 4 n ++ bits 2 z := by
  have parts : bits 6 (n % 16 * 4 + z) =
      bits 4 ((n % 16 * 4 + z) / 4) ++ bits 2 (n % 16 * 4 + z) := bits_add 4 2 _
  have high : (n % 16 * 4 + z) / 4 % 16 = n % 16 := by omega
  have low : (n % 16 * 4 + z) % 4 = z % 4 := by omega
  rw [parts, bits_congr (w := 4) high, bits_congr (w := 2) low]

theorem second_alone (n : Nat) :
    bits 6 (n % 4 * 16) = bits 2 n ++ [false, false, false, false] := by
  have parts : bits 6 (n % 4 * 16 + 0) = bits 2 n ++ bits 4 0 := bits_second (by omega)
  rw [Nat.add_zero] at parts
  exact parts

theorem third_alone (n : Nat) : bits 6 (n % 16 * 4) = bits 4 n ++ [false, false] := by
  have parts : bits 6 (n % 16 * 4 + 0) = bits 4 n ++ bits 2 0 := bits_third (by omega)
  rw [Nat.add_zero] at parts
  exact parts

theorem byte_after_six (n : Nat) : bits 8 n = bits 6 (n / 4) ++ bits 2 n := bits_add 6 2 n

theorem byte_after_four (n : Nat) : bits 8 n = bits 4 (n / 16) ++ bits 4 n := bits_add 4 4 n

theorem byte_after_two (n : Nat) : bits 8 n = bits 2 (n / 64) ++ bits 6 n := bits_add 2 6 n

/-! What is written has the bits of the bytes. -/

theorem encode_bits (bytes : Bytes) : ∃ (groups : List (Fin 64)) (pads : Nat), pads ≤ 2 ∧
    encode bytes = groups.map (fun g : Fin 64 => symbol g) ++ List.replicate pads pad ∧
    groups.flatMap (fun g : Fin 64 => bits 6 g) =
      bytes.flatMap (fun b => bits 8 b.toNat) ++ List.replicate (2 * pads) false := by
  induction bytes using encode.induct with
  | case1 a b c rest ih =>
    obtain ⟨groups, pads, few, written, regrouped⟩ := ih
    have := toNat_lt a
    have := toNat_lt b
    have := toNat_lt c
    refine ⟨⟨a.toNat / 4, by omega⟩ :: ⟨a.toNat % 4 * 16 + b.toNat / 16, by omega⟩ ::
      ⟨b.toNat % 16 * 4 + c.toNat / 64, by omega⟩ :: ⟨c.toNat % 64, by omega⟩ :: groups, pads, few,
      ?_, ?_⟩
    · rw [encode, written]
      rfl
    · have last : bits 6 (c.toNat % 64) = bits 6 c.toNat := bits_mod 6 c.toNat
      simp only [List.flatMap_cons, regrouped, bits_second (show b.toNat / 16 < 16 by omega),
        bits_third (show c.toNat / 64 < 4 by omega), last, byte_after_six a.toNat,
        byte_after_four b.toNat, byte_after_two c.toNat, List.append_assoc]
  | case2 a b =>
    have := toNat_lt a
    have := toNat_lt b
    refine ⟨[⟨a.toNat / 4, by omega⟩, ⟨a.toNat % 4 * 16 + b.toNat / 16, by omega⟩,
      ⟨b.toNat % 16 * 4, by omega⟩], 1, by decide, rfl, ?_⟩
    simp only [List.flatMap_cons, List.flatMap_nil, List.append_nil, third_alone,
      bits_second (show b.toNat / 16 < 16 by omega), byte_after_six a.toNat,
      byte_after_four b.toNat, List.append_assoc]
    rfl
  | case3 a =>
    have := toNat_lt a
    refine ⟨[⟨a.toNat / 4, by omega⟩, ⟨a.toNat % 4 * 16, by omega⟩], 2, by decide, rfl, ?_⟩
    simp only [List.flatMap_cons, List.flatMap_nil, List.append_nil, second_alone,
      byte_after_six a.toNat, List.append_assoc]
    rfl
  | case4 => exact ⟨[], 0, by decide, rfl, rfl⟩

/-! Bytes leave no choice. -/

def number (bs : List Bool) : Nat := bs.foldl (fun n b => 2 * n + b.toNat) 0

theorem number_bits (g : Fin 64) : number (bits 6 g) = g := by
  revert g
  decide

theorem length_groups (groups : List (Fin 64)) :
    (groups.flatMap fun g : Fin 64 => bits 6 g).length = 6 * groups.length := by
  simp [List.length_flatMap, length_bits, Nat.mul_comm]

theorem length_bytes (bytes : Bytes) :
    (bytes.flatMap fun b => bits 8 b.toNat).length = 8 * bytes.length := by
  simp [List.length_flatMap, length_bits, Nat.mul_comm]

theorem groups_unique {groups others : List (Fin 64)}
    (same : groups.flatMap (fun g : Fin 64 => bits 6 g) =
      others.flatMap fun g : Fin 64 => bits 6 g) :
    groups = others := by
  induction groups generalizing others with
  | nil =>
    cases others with
    | nil => rfl
    | cons g rest =>
      have lengths := congrArg List.length same
      rw [length_groups, length_groups, List.length_cons, List.length_nil] at lengths
      omega
  | cons g rest ih =>
    cases others with
    | nil =>
      have lengths := congrArg List.length same
      rw [length_groups, length_groups, List.length_cons, List.length_nil] at lengths
      omega
    | cons g' rest' =>
      rw [List.flatMap_cons, List.flatMap_cons] at same
      obtain ⟨first, more⟩ := List.append_inj same (by rw [length_bits, length_bits])
      have equal : g = g' := by
        have numbers := congrArg number first
        rw [number_bits, number_bits] at numbers
        exact Fin.ext numbers
      rw [equal, ih more]

theorem standsFor_unique {text other : List Char} {bytes : Bytes} (stands : StandsFor text bytes)
    (stands' : StandsFor other bytes) : text = other := by
  obtain ⟨groups, pads, few, rfl, regrouped⟩ := stands
  obtain ⟨groups', pads', few', rfl, regrouped'⟩ := stands'
  have lengths := congrArg List.length regrouped
  have lengths' := congrArg List.length regrouped'
  rw [List.length_append, length_groups, length_bytes, List.length_replicate] at lengths lengths'
  -- The number of pads is that of the bytes, negated, modulo three.
  have padded : pads = pads' := by omega
  subst padded
  rw [groups_unique (regrouped.trans regrouped'.symm)]

theorem symbol_char (g : Fin 64) : Char.ofNat (symbol g).toNat = alphabet.getD g '=' := by
  revert g
  decide +kernel

end Base64

namespace Secret.Content

theorem encoded_standsFor (c : Content) : Base64.StandsFor c.encoded.toList c.bytes := by
  obtain ⟨groups, pads, few, written, regrouped⟩ := Base64.encode_bits c.bytes
  refine ⟨groups, pads, few, ?_, regrouped⟩
  have padded : (List.replicate pads Base64.pad).map (fun b => Char.ofNat b.toNat) =
      List.replicate pads '=' := by
    rw [List.map_replicate]
    rfl
  rw [encoded, String.toList_ofList, written, List.map_append, padded, List.map_map]
  congr 1
  exact List.map_congr_left fun g _ => Base64.symbol_char g

theorem standsFor_iff (t : String) (c : Content) :
    Base64.StandsFor t.toList c.bytes ↔ t = c.encoded := by
  constructor
  · intro stands
    exact String.toList_inj.mp (Base64.standsFor_unique stands (encoded_standsFor c))
  · rintro rfl
    exact encoded_standsFor c

theorem ofDocument_iff (d : Document) (c : Content) :
    ofDocument d.bytes = .ok c ↔ d.value.text? = some c.encoded := by
  rw [← toOption_eq_some, ofDocument, toOption_mapError, Reader.document_means reader_means,
    ofTree_iff]

theorem ofDocument_quoted (t : String) (c : Content) :
    ofDocument (Value.text t).render.toUTF8.toList = .ok c ↔ t = c.encoded := by
  have text := Reader.text_reads t [] endsNumeral_nil
  have read : (reader.document (utf8 (Value.text t).chars)).toOption = (ofEncoded t).toOption := by
    rw [List.append_nil] at text
    rw [Reader.document]
    simp only [reader, Reader.check, Reader.readChecked, text]
    cases ofEncoded t <;> rfl
  rw [← toOption_eq_some, ofDocument, toOption_mapError, Value.render_bytes, read,
    toOption_eq_some, ofEncoded_iff]

/-- Contents and the texts that are read as contents correspond: a text is read as the content
that it stands for, and as nothing if there is none; what is written of a content is read back as
it was, what is read is written again as it was, and no two texts are read as one content. -/
theorem contents_and_texts_correspond :
    (∀ (d : Document) (t : String) (c : Content), d.value.text? = some t →
      (ofDocument d.bytes = .ok c ↔ Base64.StandsFor t.toList c.bytes)) ∧
    (∀ (t : String) (c : Content), ofDocument (Value.text t).render.toUTF8.toList = .ok c ↔
      Base64.StandsFor t.toList c.bytes) ∧
    (∀ c : Content, ofDocument c.toValue.render.toUTF8.toList = .ok c) ∧
    (∀ (d : Document) (t : String) (c : Content), d.value.text? = some t →
      ofDocument d.bytes = .ok c → c.toValue = .text t) ∧
    ∀ (d e : Document) (t u : String) (c : Content), d.value.text? = some t →
      e.value.text? = some u → ofDocument d.bytes = .ok c → ofDocument e.bytes = .ok c →
      t = u := by
  have only {d : Document} {t : String} {c : Content} (text : d.value.text? = some t) :
      ofDocument d.bytes = .ok c ↔ t = c.encoded := by
    rw [ofDocument_iff, text, Option.some_inj]
  refine ⟨?_, ?_, ?_, ?_, ?_⟩
  · intro d t c text
    rw [only text, standsFor_iff]
  · intro t c
    rw [ofDocument_quoted, standsFor_iff]
  · intro c
    exact (ofDocument_quoted c.encoded c).mpr rfl
  · intro d t c text read
    rw [(only text).mp read]
    rfl
  · intro d e t u c text text' read read'
    rw [(only text).mp read, (only text').mp read']

def smallDigit (n : Nat) (small : n < 16) : HexDigit := ⟨⟨n, small⟩, false⟩

def escapedContent : Padded Tree :=
  let zero := smallDigit 0 (by decide)
  ⟨[.space], .text (.unit ⟨zero, zero, smallDigit 5 (by decide), smallDigit 9 (by decide)⟩ ::
    plainly ['Q', '=', '='] (by simp)), [.lineFeed]⟩

theorem contents_and_texts_correspond_of_one_byte :
    ofDocument (Document.bytes escapedContent) = .ok ⟨[97]⟩ ∧
      ofDocument (Document.bytes sampleContent) = .ok ⟨[97]⟩ ∧
      Content.toValue ⟨[97]⟩ = .text "YQ==" ∧ "YQ==" = Content.encoded ⟨[97]⟩ := by
  obtain ⟨read, _, _, written, same⟩ := contents_and_texts_correspond
  have text : escapedContent.value.text? = some "YQ==" := by decide
  have text' : sampleContent.value.text? = some "YQ==" := by decide
  have stands : Base64.StandsFor "YQ==".toList (Content.bytes ⟨[97]⟩) :=
    ⟨[24, 16], 2, by decide, by decide, by decide⟩
  have found := (read escapedContent "YQ==" ⟨[97]⟩ text).mpr stands
  have found' := (read sampleContent "YQ==" ⟨[97]⟩ text').mpr stands
  refine ⟨found, found', written escapedContent "YQ==" ⟨[97]⟩ text found, ?_⟩
  exact same escapedContent sampleContent "YQ==" _ ⟨[97]⟩ text rfl found found'

end Secret.Content
end SecretKeeper
