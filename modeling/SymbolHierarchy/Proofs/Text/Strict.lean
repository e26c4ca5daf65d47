import SymbolHierarchy.Proofs.Uri.Coding

/-! Strict reading of UTF-8. It takes the bytes of a text and no others: where no gap is read, the
bytes are the codes of the characters read, one after the other. -/
namespace SymbolHierarchy.Text

variable {bytes rest : List UInt8} {b : UInt8} {cs : List Char} {v left low high share n : Nat}

theorem readsBegun (least : 0x80 ≤ low)
    (whole : readBytes (some ⟨v, left, low, high⟩) bytes = cs.map some) :
    ∃ m back, bytes = byte (0x80 + m) :: back ∧ low ≤ 0x80 + m ∧ 0x80 + m ≤ high ∧
      (left ≤ 1 → ∃ more, cs = Char.ofNat (v * 64 + m) :: more ∧
        readBytes none back = more.map some) ∧
      (1 < left → readBytes (some ⟨v * 64 + m, left - 1, 0x80, 0xBF⟩) back = cs.map some) := by
  have gapless : ∀ l, none :: l ≠ cs.map some := by
    intro l same
    have gap : none ∈ cs.map some := same ▸ List.mem_cons_self
    simp at gap
  cases bytes with
  | nil => exact absurd whole (gapless [])
  | cons b back =>
    rw [readsNext, readByte] at whole
    split at whole
    · rename_i within
      dsimp only at within
      have own : byte (0x80 + (b.toNat - 0x80)) = b := by
        rw [Nat.add_sub_cancel' (Nat.le_trans least within.1), byte, UInt8.ofNat_toNat]
      refine ⟨b.toNat - 0x80, back, by rw [own], by omega, by omega, ?_, ?_⟩
      · intro last
        dsimp only at whole
        rw [if_pos last] at whole
        cases cs with
        | nil => cases whole
        | cons c more =>
          obtain ⟨same, after⟩ := List.cons.inj whole
          exact ⟨more, by rw [Option.some.inj same], after⟩
      · intro more
        dsimp only at whole
        rwa [if_neg (Nat.not_le.mpr more)] at whole
    · exact absurd whole (gapless _)

theorem leadingCases (leads : leading n = some (left, low, high, share)) :
    (left = 1 ∧ n = 0xC0 + share ∧ 2 ≤ share ∧ share < 32 ∧ low = 0x80 ∧ high = 0xBF) ∨
    (left = 2 ∧ n = 0xE0 + share ∧ share < 16 ∧ 0x80 ≤ low ∧ high ≤ 0xBF ∧
      (share = 0 → low = 0xA0) ∧ (share = 13 → high = 0x9F)) ∨
    (left = 3 ∧ n = 0xF0 + share ∧ share < 5 ∧ 0x80 ≤ low ∧ high ≤ 0xBF ∧
      (share = 0 → low = 0x90) ∧ (share = 4 → high = 0x8F)) := by
  unfold leading at leads
  split_ifs at leads <;> cases leads <;> omega

section Codes

variable {m k : Nat}

theorem codeTwo (least : 2 ≤ share) (most : share < 32) (fine : m < 64) :
    encodeChar (Char.ofNat (share * 64 + m)) = [byte (0xC0 + share), byte (0x80 + m)] := by
  have point := pointOf (n := share * 64 + m) (.inl (by omega))
  have high : (share * 64 + m) / 64 = share := by omega
  have low : (share * 64 + m) % 64 = m := by omega
  simp only [encodeChar, point]
  rw [if_neg (by omega), if_pos (by omega), high, low]

theorem codeThree (most : share < 16) (fine : m < 64) (finer : k < 64) (long : share = 0 → 32 ≤ m)
    (scalar : share = 13 → m < 32) :
    encodeChar (Char.ofNat ((share * 64 + m) * 64 + k)) =
      [byte (0xE0 + share), byte (0x80 + m), byte (0x80 + k)] := by
  have valid : ((share * 64 + m) * 64 + k).isValidChar := by
    unfold Nat.isValidChar
    omega
  have high : ((share * 64 + m) * 64 + k) / 4096 = share := by omega
  have middle : ((share * 64 + m) * 64 + k) / 64 % 64 = m := by omega
  have low : ((share * 64 + m) * 64 + k) % 64 = k := by omega
  simp only [encodeChar, pointOf valid]
  rw [if_neg (by omega), if_neg (by omega), if_pos (by omega), high, middle, low]

theorem codeFour {j : Nat} (most : share < 5) (fine : m < 64) (finer : k < 64) (finest : j < 64)
    (long : share = 0 → 16 ≤ m) (scalar : share = 4 → m < 16) :
    encodeChar (Char.ofNat (((share * 64 + m) * 64 + k) * 64 + j)) =
      [byte (0xF0 + share), byte (0x80 + m), byte (0x80 + k), byte (0x80 + j)] := by
  have valid : (((share * 64 + m) * 64 + k) * 64 + j).isValidChar := by
    unfold Nat.isValidChar
    omega
  have top : (((share * 64 + m) * 64 + k) * 64 + j) / 262144 = share := by omega
  have high : (((share * 64 + m) * 64 + k) * 64 + j) / 4096 % 64 = m := by omega
  have middle : (((share * 64 + m) * 64 + k) * 64 + j) / 64 % 64 = k := by omega
  have low : (((share * 64 + m) * 64 + k) * 64 + j) % 64 = j := by omega
  simp only [encodeChar, pointOf valid]
  rw [if_neg (by omega), if_neg (by omega), if_neg (by omega), top, high, middle, low]

end Codes

theorem readsFirst (whole : readBytes none (b :: rest) = cs.map some) :
    ∃ c more back, cs = c :: more ∧ b :: rest = encodeChar c ++ back ∧
      readBytes none back = more.map some := by
  have own : byte b.toNat = b := UInt8.ofNat_toNat
  rw [readsNext, readByte, startByte] at whole
  split at whole
  · rename_i ascii
    cases cs with
    | nil => cases whole
    | cons c more =>
      obtain ⟨same, after⟩ := List.cons.inj whole
      have point := pointOf (n := b.toNat) (.inl (by omega))
      have code : encodeChar c = [b] := by
        rw [← Option.some.inj same]
        simp only [encodeChar, point]
        rw [if_pos ascii, own]
      exact ⟨c, more, rest, rfl, by rw [code]; rfl, after⟩
  · cases leads : leading b.toNat with
    | none =>
      rw [leads] at whole
      cases cs <;> cases whole
    | some g =>
      obtain ⟨left, low, high, share⟩ := g
      rw [leads] at whole
      change readBytes (some ⟨share, left, low, high⟩) rest = cs.map some at whole
      rcases leadingCases leads with ⟨rfl, lead, bounds⟩ | ⟨rfl, lead, bounds⟩ | ⟨rfl, lead, bounds⟩
      · obtain ⟨m, back, rfl, least, most, last, _⟩ := readsBegun (by omega) whole
        obtain ⟨more, rfl, after⟩ := last (by omega)
        refine ⟨_, more, back, rfl, ?_, after⟩
        rw [codeTwo (by omega) (by omega) (by omega), ← lead, own]
        rfl
      · obtain ⟨m, back, rfl, least, most, _, next⟩ := readsBegun (by omega) whole
        obtain ⟨k, back, rfl, least', most', last, _⟩ := readsBegun (by omega) (next (by omega))
        obtain ⟨more, rfl, after⟩ := last (by omega)
        refine ⟨_, more, back, rfl, ?_, after⟩
        rw [codeThree (by omega) (by omega) (by omega) (by omega) (by omega), ← lead, own]
        rfl
      · obtain ⟨m, back, rfl, least, most, _, next⟩ := readsBegun (by omega) whole
        obtain ⟨k, back, rfl, least', most', _, next⟩ := readsBegun (by omega) (next (by omega))
        obtain ⟨j, back, rfl, least'', most'', last, _⟩ := readsBegun (by omega) (next (by omega))
        obtain ⟨more, rfl, after⟩ := last (by omega)
        refine ⟨_, more, back, rfl, ?_, after⟩
        rw [codeFour (by omega) (by omega) (by omega) (by omega) (by omega) (by omega), ← lead, own]
        rfl

theorem readsGapless (whole : readBytes none bytes = cs.map some) : bytes = encodeUtf8 cs := by
  induction cs generalizing bytes with
  | nil =>
    cases bytes with
    | nil => rfl
    | cons b rest =>
      obtain ⟨_, _, _, same, _⟩ := readsFirst whole
      cases same
  | cons c more ih =>
    cases bytes with
    | nil => cases whole
    | cons b rest =>
      obtain ⟨_, _, back, same, split, after⟩ := readsFirst whole
      cases same
      rw [split, ih after]
      rfl

theorem gaplessMap {l : List (Option Char)} (whole : l.mapM id = some cs) : l = cs.map some := by
  induction l generalizing cs with
  | nil => simpa using whole
  | cons o rest ih =>
    simp only [List.mapM_cons, id_eq, bind, Option.bind_eq_some_iff] at whole
    obtain ⟨c, known, more, after, last⟩ := whole
    cases Option.some.inj last
    rw [known, ih after, List.map_cons]

theorem strictExactly : decodeUtf8? bytes = some cs ↔ bytes = encodeUtf8 cs := by
  constructor
  · exact fun read => readsGapless (gaplessMap read)
  · rintro rfl
    exact strictText cs

end SymbolHierarchy.Text
