import Mathlib.Data.List.TakeWhile
import ShaderTools.Text.Blank
import ShaderTools.Text.Utf8

/-!
Texts written as bytes in UTF-8 and read again. Reading gives back the text that was written, and
only a line feed is written with the byte of a line feed, so the first line of the bytes is the
first line of the text.
-/

namespace ShaderTools.Proofs.EncodedTexts

open ShaderTools.Text
open ShaderTools.Text.Utf8

section Characters

variable {n : Nat} {p : Pending} (rest : Bytes)

theorem toNat_byte (h : n < 256) : (UInt8.ofNat n).toNat = n := by
  rw [UInt8.toNat_ofNat', Nat.mod_eq_of_lt h]

theorem unitsFrom_whole (h : n < 0x80) :
    unitsFrom none (UInt8.ofNat n :: rest) = some (Char.ofNat n) :: unitsFrom none rest := by
  simp [unitsFrom, start, toNat_byte (show n < 256 by omega), h]

/-- The bytes that start a character of two bytes, of three and of four. -/
theorem unitsFrom_start_two (hlow : 0xc2 ≤ n) (hhigh : n ≤ 0xdf) :
    unitsFrom none (UInt8.ofNat n :: rest) =
      unitsFrom (some ⟨1, 0x80, 0xbf, n - 0xc0⟩) rest := by
  have hlong : ¬n < 0x80 := by omega
  simp [unitsFrom, start, toNat_byte (show n < 256 by omega), hlong, hlow, hhigh]

theorem unitsFrom_start_three (hlow : 0xe0 ≤ n) (hhigh : n ≤ 0xef) :
    unitsFrom none (UInt8.ofNat n :: rest) =
      unitsFrom (some ⟨2, if n = 0xe0 then 0xa0 else 0x80, if n = 0xed then 0x9f else 0xbf,
        n - 0xe0⟩) rest := by
  have hlong : ¬n < 0x80 := by omega
  have htwo : ¬(0xc2 ≤ n ∧ n ≤ 0xdf) := by omega
  simp [unitsFrom, start, toNat_byte (show n < 256 by omega), hlong, htwo, hlow, hhigh]

theorem unitsFrom_start_four (hlow : 0xf0 ≤ n) (hhigh : n ≤ 0xf4) :
    unitsFrom none (UInt8.ofNat n :: rest) =
      unitsFrom (some ⟨3, if n = 0xf0 then 0x90 else 0x80, if n = 0xf4 then 0x8f else 0xbf,
        n - 0xf0⟩) rest := by
  have hlong : ¬n < 0x80 := by omega
  have htwo : ¬(0xc2 ≤ n ∧ n ≤ 0xdf) := by omega
  have hthree : ¬(0xe0 ≤ n ∧ n ≤ 0xef) := by omega
  simp [unitsFrom, start, toNat_byte (show n < 256 by omega), hlong, htwo, hthree, hlow, hhigh]

theorem unitsFrom_last (hn : n < 256) (hlow : p.low ≤ n) (hhigh : n ≤ p.high) (howed : p.owed = 1) :
    unitsFrom (some p) (UInt8.ofNat n :: rest) =
      some (Char.ofNat (64 * p.bits + (n - 0x80))) :: unitsFrom none rest := by
  simp [unitsFrom, toNat_byte hn, hlow, hhigh, howed]

theorem unitsFrom_next (hn : n < 256) (hlow : p.low ≤ n) (hhigh : n ≤ p.high) (howed : 1 < p.owed) :
    unitsFrom (some p) (UInt8.ofNat n :: rest) =
      unitsFrom (some ⟨p.owed - 1, 0x80, 0xbf, 64 * p.bits + (n - 0x80)⟩) rest := by
  simp [unitsFrom, toNat_byte hn, hlow, hhigh, Nat.not_le.mpr howed]

theorem utf8EncodeChar_eq (c : Char) :
    String.utf8EncodeChar c =
      if c.toNat ≤ 127 then [UInt8.ofNat c.toNat]
      else if c.toNat ≤ 2047 then
        [UInt8.ofNat (c.toNat / 64 % 32 + 192), UInt8.ofNat (c.toNat % 64 + 128)]
      else if c.toNat ≤ 65535 then
        [UInt8.ofNat (c.toNat / 4096 % 16 + 224), UInt8.ofNat (c.toNat / 64 % 64 + 128),
          UInt8.ofNat (c.toNat % 64 + 128)]
      else
        [UInt8.ofNat (c.toNat / 262144 % 8 + 240), UInt8.ofNat (c.toNat / 4096 % 64 + 128),
          UInt8.ofNat (c.toNat / 64 % 64 + 128), UInt8.ofNat (c.toNat % 64 + 128)] :=
  rfl

/-- The bytes of a character are read as that character, whatever follows them. -/
theorem unitsFrom_utf8EncodeChar (c : Char) :
    unitsFrom none (String.utf8EncodeChar c ++ rest) = some c :: unitsFrom none rest := by
  have hvalid : c.toNat < 0xd800 ∨ 0xdfff < c.toNat ∧ c.toNat < 0x110000 := c.valid
  have hread : ∀ m, m = c.toNat → some (Char.ofNat m) :: unitsFrom none rest =
      some c :: unitsFrom none rest := by
    rintro m rfl
    rw [Char.ofNat_toNat]
  rw [utf8EncodeChar_eq]
  generalize c.toNat = v at hvalid hread ⊢
  split
  · exact (unitsFrom_whole rest (by omega)).trans (hread _ rfl)
  · split
    · simp only [List.cons_append, List.nil_append]
      rw [unitsFrom_start_two _ (by omega) (by omega),
        unitsFrom_last _ (by omega) (by dsimp only; omega) (by dsimp only; omega) rfl]
      exact hread _ (by dsimp only; omega)
    · split
      · simp only [List.cons_append, List.nil_append]
        rw [unitsFrom_start_three _ (by omega) (by omega),
          unitsFrom_next _ (by omega) (by dsimp only; split <;> omega)
            (by dsimp only; split <;> omega) (by dsimp only; omega),
          unitsFrom_last _ (by omega) (by dsimp only; omega) (by dsimp only; omega) rfl]
        exact hread _ (by dsimp only; omega)
      · simp only [List.cons_append, List.nil_append]
        rw [unitsFrom_start_four _ (by omega) (by omega),
          unitsFrom_next _ (by omega) (by dsimp only; split <;> omega)
            (by dsimp only; split <;> omega) (by dsimp only; omega),
          unitsFrom_next _ (by omega) (by dsimp only; omega) (by dsimp only; omega)
            (by dsimp only; omega),
          unitsFrom_last _ (by omega) (by dsimp only; omega) (by dsimp only; omega) rfl]
        exact hread _ (by dsimp only; omega)

/-- Only a line feed has the byte of a line feed among its bytes. -/
theorem lineFeed_notMem_utf8EncodeChar {c : Char} (hc : c ≠ '\n') :
    0x0a ∉ String.utf8EncodeChar c := by
  have hcode : c.toNat ≠ 0x0a := fun h => hc (by rw [← Char.ofNat_toNat c, h])
  have hbyte : ∀ m, m < 256 → m ≠ 0x0a → (0x0a : UInt8) ≠ UInt8.ofNat m := by
    intro m hm hne h
    have htoNat := congrArg UInt8.toNat h
    rw [toNat_byte hm] at htoNat
    exact hne htoNat.symm
  rw [utf8EncodeChar_eq]
  split
  · simpa only [List.mem_singleton] using hbyte _ (by omega) hcode
  · split
    · simp only [List.mem_cons, List.not_mem_nil, or_false, not_or]
      exact ⟨hbyte _ (by omega) (by omega), hbyte _ (by omega) (by omega)⟩
    · split
      · simp only [List.mem_cons, List.not_mem_nil, or_false, not_or]
        exact ⟨hbyte _ (by omega) (by omega), hbyte _ (by omega) (by omega),
          hbyte _ (by omega) (by omega)⟩
      · simp only [List.mem_cons, List.not_mem_nil, or_false, not_or]
        exact ⟨hbyte _ (by omega) (by omega), hbyte _ (by omega) (by omega),
          hbyte _ (by omega) (by omega), hbyte _ (by omega) (by omega)⟩

end Characters

section Texts

theorem units_encode (t : Text) : units (encode t) = t.map some := by
  unfold units encode
  induction t with
  | nil => rfl
  | cons c rest ih =>
      rw [List.flatMap_cons, unitsFrom_utf8EncodeChar, ih, List.map_cons]

/-- What was written is read again. -/
theorem decode?_encode (t : Text) : decode? (encode t) = some t := by
  rw [decode?, units_encode]
  induction t with
  | nil => rfl
  | cons c rest ih => simp [List.mapM_cons, ih]

theorem encode_append (a b : Text) : encode (a ++ b) = encode a ++ encode b := List.flatMap_append

theorem lineFeed_notMem_encode {t : Text} (h : '\n' ∉ t) : 0x0a ∉ encode t := by
  intro hmem
  obtain ⟨c, hc, hbyte⟩ := List.mem_flatMap.mp hmem
  exact lineFeed_notMem_utf8EncodeChar (fun heq => h (heq ▸ hc)) hbyte

end Texts

section Lines

variable {bytes : Bytes}

theorem ne_lineFeed_of_notMem (h : 0x0a ∉ bytes) : ∀ b ∈ bytes, (b ≠ 0x0a : Bool) = true := by
  intro b hb
  simpa using fun heq : b = 0x0a => h (heq ▸ hb)

theorem firstLine_eq_self (h : 0x0a ∉ bytes) : Bytes.firstLine bytes = bytes := by
  have hline := ne_lineFeed_of_notMem h
  rw [Bytes.firstLine, List.takeWhile_eq_self_iff.mpr hline, List.dropWhile_eq_nil_iff.mpr hline]
  simp

theorem firstLine_append_lineFeed (h : 0x0a ∉ bytes) (rest : Bytes) :
    Bytes.firstLine (bytes ++ 0x0a :: rest) = bytes ++ [0x0a] := by
  have hline := ne_lineFeed_of_notMem h
  rw [Bytes.firstLine, List.takeWhile_append_of_pos hline, List.dropWhile_append_of_pos hline]
  simp

end Lines

end ShaderTools.Proofs.EncodedTexts
