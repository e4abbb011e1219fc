import SecretKeeper.Base64

/-!
Texts as bytes. A character below 128 is one byte, any other one is bytes of at least 128 only.
-/
namespace SecretKeeper.Text

def utf8 (cs : List Char) : Bytes := cs.flatMap String.utf8EncodeChar

@[simp] theorem utf8_nil : utf8 [] = [] := rfl

@[simp] theorem utf8_append (cs ds : List Char) : utf8 (cs ++ ds) = utf8 cs ++ utf8 ds :=
  List.flatMap_append

theorem utf8_cons (c : Char) (cs : List Char) :
    utf8 (c :: cs) = String.utf8EncodeChar c ++ utf8 cs := List.flatMap_cons

theorem toList_loop (b : ByteArray) (i : Nat) (r : List UInt8) :
    ByteArray.toList.loop b i r = r.reverse ++ b.data.toList.drop i := by
  fun_induction ByteArray.toList.loop b i r with
  | case1 i r inside ih =>
    have bound : i < b.data.toList.length := inside
    have here : b.get! i = b.data.toList[i] := by
      rw [Array.getElem_toList]
      exact getElem!_pos b.data i inside
    rw [ih, List.reverse_cons, List.append_assoc, List.singleton_append, here,
      List.getElem_cons_drop]
  | case2 i r outside =>
    have past : b.data.toList.length ≤ i := Nat.le_of_not_lt outside
    rw [List.drop_eq_nil_of_le past, List.append_nil]

theorem toList_toByteArray (bytes : Bytes) : bytes.toByteArray.toList = bytes := by
  rw [ByteArray.toList, toList_loop, List.toList_data_toByteArray]
  rfl

theorem toUTF8_ofList (cs : List Char) : (String.ofList cs).toUTF8.toList = utf8 cs :=
  toList_toByteArray (utf8 cs)

theorem fromUTF8_bytes (s : String) : String.fromUTF8? s.toUTF8.toList.toByteArray = some s := by
  have bytes : s.toUTF8.toList.toByteArray = s.toUTF8 := by
    rw [← String.ofList_toList (s := s), toUTF8_ofList]
    rfl
  rw [bytes]
  exact dif_pos s.isValidUTF8

theorem encode_ascii {c : Char} (ascii : c.toNat < 128) :
    String.utf8EncodeChar c = [UInt8.ofNat c.toNat] := by
  have small : c.val.toNat ≤ 0x7f := by
    have : c.toNat = c.val.toNat := rfl
    omega
  rw [String.utf8EncodeChar, if_pos small]
  rfl

theorem encode_high {c : Char} (high : 128 ≤ c.toNat) {b : UInt8}
    (member : b ∈ String.utf8EncodeChar c) : 128 ≤ b.toNat := by
  have large : ¬c.val.toNat ≤ 0x7f := by
    have : c.toNat = c.val.toNat := rfl
    omega
  simp only [String.utf8EncodeChar, large, ↓reduceIte] at member
  split at member
  · simp only [List.mem_cons, List.not_mem_nil, or_false] at member
    rcases member with rfl | rfl <;> simp only [UInt8.toNat_ofNat'] <;> omega
  · split at member
    · simp only [List.mem_cons, List.not_mem_nil, or_false] at member
      rcases member with rfl | rfl | rfl <;> simp only [UInt8.toNat_ofNat'] <;> omega
    · simp only [List.mem_cons, List.not_mem_nil, or_false] at member
      rcases member with rfl | rfl | rfl | rfl <;> simp only [UInt8.toNat_ofNat'] <;> omega

theorem utf8_ascii {cs : List Char} (ascii : ∀ c ∈ cs, c.toNat < 128) :
    utf8 cs = cs.map fun c => UInt8.ofNat c.toNat := by
  induction cs with
  | nil => rfl
  | cons c rest ih =>
    rw [utf8_cons, encode_ascii (ascii c List.mem_cons_self),
      ih fun d member => ascii d (List.mem_cons_of_mem c member)]
    rfl

theorem utf8_of_bytes {bytes : Bytes} (ascii : ∀ b ∈ bytes, b.toNat < 128) :
    utf8 (bytes.map fun b => Char.ofNat b.toNat) = bytes := by
  have numbers : ∀ n < 128, (Char.ofNat n).toNat = n := by decide
  induction bytes with
  | nil => rfl
  | cons b rest ih =>
    have small := ascii b List.mem_cons_self
    have number := numbers b.toNat small
    have one := encode_ascii (c := Char.ofNat b.toNat) (by omega)
    rw [List.map_cons, utf8_cons, one, number, UInt8.ofNat_toNat,
      ih fun d member => ascii d (List.mem_cons_of_mem b member)]
    rfl

end SecretKeeper.Text
