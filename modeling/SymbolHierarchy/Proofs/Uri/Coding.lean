import Mathlib.Tactic.SplitIfs
import SymbolHierarchy.Uri.Percent

/-! Coded texts. What a character is coded as is read back as that character whatever follows, both
from its bytes and from their percent-coded form. So no code begins another, and coded texts begin
with one another just as their texts do. A percent-coded text holds no sign that cuts a URI. -/
namespace SymbolHierarchy

namespace Text

theorem byteValue {n : Nat} (low : n < 256) : (byte n).toNat = n := by
  simp [byte, Nat.mod_eq_of_lt low]

theorem readsNext (s : Option Begun) (b : UInt8) (rest : List UInt8) :
    readBytes s (b :: rest) = (readByte s b.toNat).2 ++ readBytes (readByte s b.toNat).1 rest := rfl

theorem readsLeading {b left low high share : Nat} {rest : List UInt8} (small : b < 256)
    (above : 0x80 ≤ b) (leads : leading b = some (left, low, high, share)) :
    readBytes none (byte b :: rest) = readBytes (some ⟨share, left, low, high⟩) rest := by
  rw [readsNext, byteValue small]
  simp [readByte, startByte, Nat.not_lt.mpr above, leads]

theorem readsMiddle {v left low high m : Nat} {rest : List UInt8} (small : m < 64)
    (more : 1 < left) (least : low ≤ 0x80 + m) (most : 0x80 + m ≤ high) :
    readBytes (some ⟨v, left, low, high⟩) (byte (0x80 + m) :: rest) =
      readBytes (some ⟨v * 64 + m, left - 1, 0x80, 0xBF⟩) rest := by
  rw [readsNext, byteValue (by omega)]
  simp [readByte, least, most, Nat.not_le.mpr more]

theorem readsLast {v low high m : Nat} {rest : List UInt8} (small : m < 64)
    (least : low ≤ 0x80 + m) (most : 0x80 + m ≤ high) :
    readBytes (some ⟨v, 1, low, high⟩) (byte (0x80 + m) :: rest) =
      some (Char.ofNat (v * 64 + m)) :: readBytes none rest := by
  rw [readsNext, byteValue (by omega)]
  simp [readByte, least, most]

theorem leadingTwo {k : Nat} (least : 2 ≤ k) (most : k < 32) :
    leading (0xC0 + k) = some (1, 0x80, 0xBF, k) := by
  have range : 0xC2 ≤ 0xC0 + k ∧ 0xC0 + k ≤ 0xDF := by omega
  rw [leading, if_pos range, Nat.add_sub_cancel_left]

theorem leadingThree {k m : Nat} (small : k < 16) (fine : m < 64) (long : k = 0 → 32 ≤ m)
    (scalar : k = 13 → m < 32) :
    ∃ low high, leading (0xE0 + k) = some (2, low, high, k) ∧ low ≤ 0x80 + m ∧ 0x80 + m ≤ high := by
  by_cases zero : k = 0
  · subst zero
    exact ⟨0xA0, 0xBF, by simp [leading], by omega, by omega⟩
  · by_cases thirteen : k = 13
    · subst thirteen
      exact ⟨0x80, 0x9F, by simp [leading], by omega, by omega⟩
    · refine ⟨0x80, 0xBF, ?_, by omega, by omega⟩
      rw [leading, if_neg (by omega), if_neg (by omega), if_neg (by omega), if_pos (by omega),
        Nat.add_sub_cancel_left]

theorem leadingFour {k m : Nat} (small : k < 5) (fine : m < 64) (long : k = 0 → 16 ≤ m)
    (scalar : k = 4 → m < 16) :
    ∃ low high, leading (0xF0 + k) = some (3, low, high, k) ∧ low ≤ 0x80 + m ∧ 0x80 + m ≤ high := by
  by_cases zero : k = 0
  · subst zero
    exact ⟨0x90, 0xBF, by simp [leading], by omega, by omega⟩
  · by_cases four : k = 4
    · subst four
      exact ⟨0x80, 0x8F, by simp [leading], by omega, by omega⟩
    · refine ⟨0x80, 0xBF, ?_, by omega, by omega⟩
      rw [leading, if_neg (by omega), if_neg (by omega), if_neg (by omega), if_neg (by omega),
        if_neg (by omega), if_pos (by omega), Nat.add_sub_cancel_left]

theorem scalarValue (c : Char) :
    c.toNat < 0xD800 ∨ 0xDFFF < c.toNat ∧ c.toNat < 0x110000 := c.valid

theorem pointOf {n : Nat} (valid : n.isValidChar) : (Char.ofNat n).toNat = n := by
  rw [Char.ofNat, dif_pos valid]
  rfl

theorem readsEncoded (c : Char) (rest : List UInt8) :
    readBytes none (encodeChar c ++ rest) = some c :: readBytes none rest := by
  have scalar := scalarValue c
  have own : Char.ofNat c.toNat = c := Char.ofNat_toNat c
  generalize point : c.toNat = n at scalar own
  simp only [encodeChar, point]
  split_ifs with one two three
  · rw [List.singleton_append, readsNext, byteValue (by omega)]
    simp [readByte, startByte, one, own]
  · have leads := leadingTwo (k := n / 64) (by omega) (by omega)
    have value : n / 64 * 64 + n % 64 = n := by omega
    rw [List.cons_append, readsLeading (by omega) (by omega) leads, List.singleton_append,
      readsLast (by omega) (by omega) (by omega), value, own]
  · obtain ⟨low, high, leads, least, most⟩ :=
      leadingThree (k := n / 4096) (m := n / 64 % 64) (by omega) (by omega) (by omega) (by omega)
    have value : (n / 4096 * 64 + n / 64 % 64) * 64 + n % 64 = n := by omega
    rw [List.cons_append, readsLeading (by omega) (by omega) leads, List.cons_append,
      readsMiddle (by omega) (by omega) least most, List.singleton_append,
      readsLast (by omega) (by omega) (by omega), value, own]
  · obtain ⟨low, high, leads, least, most⟩ :=
      leadingFour (k := n / 262144) (m := n / 4096 % 64) (by omega) (by omega) (by omega) (by omega)
    have value : ((n / 262144 * 64 + n / 4096 % 64) * 64 + n / 64 % 64) * 64 + n % 64 = n := by
      omega
    rw [List.cons_append, readsLeading (by omega) (by omega) leads, List.cons_append,
      readsMiddle (by omega) (by omega) least most, List.cons_append,
      readsMiddle (by omega) (by omega) (by omega) (by omega), List.singleton_append,
      readsLast (by omega) (by omega) (by omega), value, own]

theorem readsText (cs : List Char) : readBytes none (encodeUtf8 cs) = cs.map some := by
  induction cs with
  | nil => rfl
  | cons c rest ih =>
    have bytes : encodeUtf8 (c :: rest) = encodeChar c ++ encodeUtf8 rest := List.flatMap_cons
    rw [bytes, readsEncoded, ih, List.map_cons]

theorem strictText (cs : List Char) : decodeUtf8? (encodeUtf8 cs) = some cs := by
  rw [decodeUtf8?, readsText]
  induction cs with
  | nil => rfl
  | cons c rest ih => simp [List.mapM_cons, ih]

theorem tolerantText (cs : List Char) : decodeUtf8 (encodeUtf8 cs) = cs := by
  simp [decodeUtf8, readsText, Function.comp_def]

end Text

namespace Uri
open Text (encodeChar encodeUtf8 readBytes)

theorem hexRead : ∀ k : Fin 16, hexValue (hexUpper k) = some k.val := by decide

theorem hexPairRead (b : UInt8) :
    hexPair (hexUpper (b.toNat / 16)) (hexUpper (b.toNat % 16)) = some b := by
  have small := b.toNat_lt
  have high := hexRead ⟨b.toNat / 16, by omega⟩
  have low := hexRead ⟨b.toNat % 16, by omega⟩
  have value : b.toNat / 16 * 16 + b.toNat % 16 = b.toNat := by omega
  simp only [hexPair, high, low, Option.bind_eq_bind, Option.bind_some, value, UInt8.ofNat_toNat]

theorem escapedPlain {c : Char} (plain : c ≠ '%') (rest : List Char) :
    escapedBytes (c :: rest) = UInt8.ofNat c.toNat :: escapedBytes rest := by
  rw [escapedBytes.eq_def]
  split
  · rename_i same
    exact absurd (List.cons.inj same).1 plain
  · rename_i same
    obtain ⟨rfl, rfl⟩ := List.cons.inj same
    rfl
  · rename_i same
    cases same

theorem escapedRead (b : UInt8) (rest : List Char) :
    escapedBytes (encodeByte b ++ rest) = b :: escapedBytes rest := by
  unfold encodeByte
  split_ifs with unreserved
  · have small := b.toNat_lt
    have value : (Char.ofNat b.toNat).toNat = b.toNat := Text.pointOf (.inl (by omega))
    have plain : Char.ofNat b.toNat ≠ '%' := by
      intro same
      simp only [isUnreserved, same] at unreserved
      exact absurd unreserved (by decide)
    rw [List.singleton_append, escapedPlain plain, value, UInt8.ofNat_toNat]
  · simp [escapedBytes, hexPairRead]

theorem escapedReadAll (bs : List UInt8) (rest : List Char) :
    escapedBytes (bs.flatMap encodeByte ++ rest) = bs ++ escapedBytes rest := by
  induction bs with
  | nil => rfl
  | cons b more ih => rw [List.flatMap_cons, List.append_assoc, escapedRead, ih, List.cons_append]

def codedRead (cs : List Char) : List (Option Char) := readBytes none (escapedBytes cs)

theorem codedCons (c : Char) (cs : List Char) :
    percentEncode (c :: cs) = percentEncode [c] ++ percentEncode cs := by
  simp [percentEncode, encodeUtf8]

theorem codedAppend (a b : List Char) :
    percentEncode (a ++ b) = percentEncode a ++ percentEncode b := by
  simp [percentEncode, encodeUtf8]

theorem codedReadOne (c : Char) (rest : List Char) :
    codedRead (percentEncode [c] ++ rest) = some c :: codedRead rest := by
  have bytes : encodeUtf8 [c] = encodeChar c := by simp [encodeUtf8]
  rw [codedRead, percentEncode, bytes, escapedReadAll, Text.readsEncoded]
  rfl

theorem codedReadAll (cs rest : List Char) :
    codedRead (percentEncode cs ++ rest) = cs.map some ++ codedRead rest := by
  induction cs with
  | nil => rfl
  | cons c more ih =>
    rw [codedCons, List.append_assoc, codedReadOne, ih, List.map_cons, List.cons_append]

theorem codedPrefix {a b : List Char} : percentEncode a <+: percentEncode b ↔ a <+: b := by
  constructor
  · rintro ⟨rest, same⟩
    have read := congrArg codedRead same
    have whole : codedRead (percentEncode b) = b.map some := by
      simpa [codedRead, escapedBytes, readBytes] using codedReadAll b []
    rw [codedReadAll, whole] at read
    obtain ⟨front, back, rfl, own, _⟩ := List.map_eq_append_iff.mp read.symm
    have inner : front = a := (List.map_inj_right fun _ _ => Option.some.inj).mp own
    exact inner ▸ List.prefix_append _ _
  · rintro ⟨rest, rfl⟩
    exact ⟨percentEncode rest, (codedAppend a rest).symm⟩

theorem codedInjective {a b : List Char} (same : percentEncode a = percentEncode b) : a = b := by
  have one : a <+: b := codedPrefix.mp (same ▸ List.prefix_refl _)
  have other : b <+: a := codedPrefix.mp (same ▸ List.prefix_refl _)
  exact one.eq_of_length_le other.length_le

def isPlain (c : Char) : Bool := isAscii c && 0x20 ≤ c.toNat && c ≠ '#' && c ≠ '?'

theorem hexPlain : ∀ k : Fin 16, isPlain (hexUpper k) = true := by decide

theorem alphanumPlain {c : Char} (own : c.isAlphanum = true) : isPlain c = true := by
  have notHash : c ≠ '#' := by
    rintro rfl
    exact absurd own (by decide)
  have notQuestion : c ≠ '?' := by
    rintro rfl
    exact absurd own (by decide)
  have range : 48 ≤ c.toNat ∧ c.toNat ≤ 122 := by
    delta Char.isAlphanum Char.isAlpha Char.isUpper Char.isLower Char.isDigit at own
    simp only [Char.reduceVal, ge_iff_le, UInt32.le_iff_toNat_le, UInt32.reduceToNat,
      Char.toNat_val, Bool.decide_and, Bool.or_eq_true, Bool.and_eq_true, decide_eq_true_eq] at own
    omega
  have ascii : c.toNat < 128 := by omega
  have visible : 0x20 ≤ c.toNat := by omega
  simp [isPlain, isAscii, notHash, notQuestion, ascii, visible]

theorem unreservedPlain {b : UInt8} (own : isUnreserved b = true) :
    isPlain (Char.ofNat b.toNat) = true := by
  simp only [isUnreserved, Bool.or_eq_true, decide_eq_true_eq] at own
  generalize Char.ofNat b.toNat = c at own
  rcases own with ((((own | rfl) | rfl) | rfl) | rfl) | rfl
  · exact alphanumPlain own
  all_goals decide

theorem bytePlain (b : UInt8) : ∀ c ∈ encodeByte b, isPlain c = true := by
  have small := b.toNat_lt
  unfold encodeByte
  split
  · rename_i own
    intro c mem
    rw [List.mem_singleton] at mem
    exact mem ▸ unreservedPlain own
  · intro c mem
    have high := hexPlain ⟨b.toNat / 16, by omega⟩
    have low := hexPlain ⟨b.toNat % 16, by omega⟩
    rcases List.mem_cons.mp mem with rfl | digit
    · decide
    · rcases List.mem_cons.mp digit with rfl | last
      · exact high
      · exact List.mem_singleton.mp last ▸ low

theorem codedPlain (cs : List Char) : ∀ c ∈ percentEncode cs, isPlain c = true := by
  intro c mem
  obtain ⟨b, _, own⟩ := List.mem_flatMap.mp mem
  exact bytePlain b c own

theorem decodedRun {cs : List Char} (ascii : ∀ c ∈ cs, isAscii c = true) (run : List Char) :
    percentDecodeFrom run cs = Text.decodeUtf8 (escapedBytes (run.reverse ++ cs)) := by
  induction cs generalizing run with
  | nil => rw [percentDecodeFrom, List.append_nil]
  | cons c rest ih =>
    obtain ⟨first, others⟩ := List.forall_mem_cons.mp ascii
    rw [percentDecodeFrom, if_pos first, ih others, List.reverse_cons, List.append_assoc,
      List.singleton_append]

theorem codedBytes (cs : List Char) : escapedBytes (percentEncode cs) = encodeUtf8 cs := by
  have read := escapedReadAll (encodeUtf8 cs) []
  rwa [List.append_nil, escapedBytes, List.append_nil] at read

theorem codedDecoded (cs : List Char) : percentDecode (percentEncode cs) = cs := by
  have ascii : ∀ c ∈ percentEncode cs, isAscii c = true := by
    intro c mem
    have plain := codedPlain cs c mem
    simp only [isPlain, Bool.and_eq_true] at plain
    exact plain.1.1.1
  rw [percentDecode, decodedRun ascii, List.reverse_nil, List.nil_append, codedBytes,
    Text.tolerantText]

end Uri
end SymbolHierarchy
