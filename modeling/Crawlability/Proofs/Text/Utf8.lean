import Crawlability.Text.Utf8

/-!
Reading what was written. The octets of a text are those of its characters, one after the other, and
each character is read back from its octets, whatever stands behind them. So a text is read from its
octets as it was, with nothing marked.
-/
namespace Crawlability.Text.Utf8

/-- The octets of an array from a place on, behind those that were gathered before. -/
theorem toList_loop_of_size_eq (octets : ByteArray) (left place : Nat) (gathered : List UInt8)
    (h : octets.size = place + left) : ByteArray.toList.loop octets place gathered =
      gathered.reverse ++ octets.data.toList.drop place := by
  induction left generalizing place gathered with
  | zero =>
    have hend : octets.data.toList.length ≤ place := by
      rw [Array.length_toList]
      exact Nat.le_of_eq h
    rw [ByteArray.toList.loop, if_neg (by omega), List.drop_eq_nil_of_le hend, List.append_nil]
  | succ left ih =>
    have hplace : place < octets.data.toList.length := by
      rw [Array.length_toList]
      change place < octets.size
      omega
    have hoctet : octets.get! place = octets.data.toList[place] := by
      simp [ByteArray.get!, getElem!_pos octets.data place (by simpa using hplace)]
    rw [ByteArray.toList.loop, if_pos (by omega), ih (place + 1) _ (by omega), List.reverse_cons,
      List.append_assoc, List.singleton_append, hoctet, ← List.drop_eq_getElem_cons hplace]

theorem encode_eq (s : String) : encode s = s.toList.flatMap String.utf8EncodeChar := by
  have hbytes : s.toUTF8 = (s.toList.flatMap String.utf8EncodeChar).toByteArray := by
    rw [String.toUTF8_eq_toByteArray, ← List.utf8Encode, ← String.toByteArray_ofList,
      String.ofList_toList]
  rw [encode, hbytes, ByteArray.toList, toList_loop_of_size_eq _ _ 0 [] (Nat.zero_add _).symm]
  simp

/-! ## The octets of one character -/

/-- An octet behind the first one, which is not the last. -/
theorem readFrom_next (p : Pending) (b : Nat) (rest : List UInt8) (hb : b < 256)
    (hlow : p.low ≤ b) (hhigh : b ≤ p.high) (hmissing : 1 < p.missing) :
    readFrom (some p) (.ofNat b :: rest) =
      readFrom (some ⟨p.missing - 1, 0x80, 0xBF, p.code * 0x40 + (b - 0x80)⟩) rest := by
  have hoctet : (UInt8.ofNat b).toNat = b := UInt8.toNat_ofNat_of_lt hb
  rw [readFrom, hoctet, if_pos ⟨hlow, hhigh⟩]
  simp only [if_neg (Nat.not_le_of_lt hmissing)]

theorem readFrom_last (p : Pending) (b : Nat) (rest : List UInt8) (hb : b < 256)
    (hlow : p.low ≤ b) (hhigh : b ≤ p.high) (hmissing : p.missing ≤ 1) :
    readFrom (some p) (.ofNat b :: rest) =
      some (.ofNat (p.code * 0x40 + (b - 0x80))) :: readFrom none rest := by
  have hoctet : (UInt8.ofNat b).toNat = b := UInt8.toNat_ofNat_of_lt hb
  rw [readFrom, hoctet, if_pos ⟨hlow, hhigh⟩]
  simp only [if_pos hmissing]

theorem readFrom_lead (b : Nat) (p : Pending) (rest : List UInt8) (hb : b < 256)
    (h : Start.ofOctet b = .lead p) :
    readFrom none (.ofNat b :: rest) = readFrom (some p) rest := by
  have hoctet : (UInt8.ofNat b).toNat = b := UInt8.toNat_ofNat_of_lt hb
  rw [readFrom, hoctet, h]

/-- The first octet of two gives the upper bits of the code. -/
theorem ofOctet_of_two (v : Nat) (hlow : 0x80 ≤ v) (hhigh : v < 0x800) :
    Start.ofOctet (v / 0x40 + 0xC0) = .lead ⟨1, 0x80, 0xBF, v / 0x40⟩ := by
  unfold Start.ofOctet
  rw [if_neg (by omega), if_neg (by omega), if_pos (by omega), Nat.add_sub_cancel]

/-- The first octet of three gives the upper bits of the code and a range in which the second one
lies, unless the code is that of a surrogate. -/
theorem exists_ofOctet_of_three (v : Nat) (hlow : 0x800 ≤ v) (hhigh : v < 0x10000)
    (hvalid : v < 0xD800 ∨ 0xDFFF < v) :
    ∃ low high, Start.ofOctet (v / 0x1000 + 0xE0) = .lead ⟨2, low, high, v / 0x1000⟩ ∧
      low ≤ v / 0x40 % 0x40 + 0x80 ∧ v / 0x40 % 0x40 + 0x80 ≤ high := by
  unfold Start.ofOctet
  rw [if_neg (by omega), if_neg (by omega), if_neg (by omega)]
  by_cases hfirst : v / 0x1000 = 0
  · exact ⟨0xA0, 0xBF, by simp [hfirst], by omega, by omega⟩
  · by_cases hsurrogates : v / 0x1000 = 0xD
    · exact ⟨0x80, 0x9F, by simp [hsurrogates], by omega, by omega⟩
    · refine ⟨0x80, 0xBF, ?_, by omega, by omega⟩
      rw [if_neg (by omega), if_neg (by omega), if_pos (by omega), Nat.add_sub_cancel]

/-- The first octet of four, in the same way; the range keeps the code below the last plane. -/
theorem exists_ofOctet_of_four (v : Nat) (hlow : 0x10000 ≤ v) (hhigh : v < 0x110000) :
    ∃ low high, Start.ofOctet (v / 0x40000 + 0xF0) = .lead ⟨3, low, high, v / 0x40000⟩ ∧
      low ≤ v / 0x1000 % 0x40 + 0x80 ∧ v / 0x1000 % 0x40 + 0x80 ≤ high := by
  unfold Start.ofOctet
  rw [if_neg (by omega), if_neg (by omega), if_neg (by omega), if_neg (by omega),
    if_neg (by omega), if_neg (by omega)]
  by_cases hfirst : v / 0x40000 = 0
  · exact ⟨0x90, 0xBF, by simp [hfirst], by omega, by omega⟩
  · by_cases hlast : v / 0x40000 = 4
    · exact ⟨0x80, 0x8F, by simp [hlast], by omega, by omega⟩
    · refine ⟨0x80, 0xBF, ?_, by omega, by omega⟩
      rw [if_neg (by omega), if_pos (by omega), Nat.add_sub_cancel]

section Codes

variable (v : Nat) (rest : List UInt8)

theorem readFrom_of_one (h : v < 0x80) :
    readFrom none (.ofNat v :: rest) = some (.ofNat v) :: readFrom none rest := by
  have hwhole : Start.ofOctet v = .whole v := if_pos h
  have hoctet : (UInt8.ofNat v).toNat = v := UInt8.toNat_ofNat_of_lt (show v < 256 by omega)
  rw [readFrom, hoctet, hwhole]

theorem readFrom_of_two (hlow : 0x80 ≤ v) (hhigh : v < 0x800) :
    readFrom none (.ofNat (v / 0x40 + 0xC0) :: .ofNat (v % 0x40 + 0x80) :: rest) =
      some (.ofNat v) :: readFrom none rest := by
  have hcode : v / 0x40 * 0x40 + (v % 0x40 + 0x80 - 0x80) = v := by omega
  rw [readFrom_lead _ _ _ (by omega) (ofOctet_of_two v hlow hhigh),
    readFrom_last _ _ _ (by omega) (by simp) (by simp; omega) (by simp), hcode]

theorem readFrom_of_three (hlow : 0x800 ≤ v) (hhigh : v < 0x10000)
    (hvalid : v < 0xD800 ∨ 0xDFFF < v) :
    readFrom none (.ofNat (v / 0x1000 + 0xE0) :: .ofNat (v / 0x40 % 0x40 + 0x80) ::
      .ofNat (v % 0x40 + 0x80) :: rest) = some (.ofNat v) :: readFrom none rest := by
  obtain ⟨low, high, hlead, hfrom, hto⟩ := exists_ofOctet_of_three v hlow hhigh hvalid
  have hcode : (v / 0x1000 * 0x40 + (v / 0x40 % 0x40 + 0x80 - 0x80)) * 0x40 +
      (v % 0x40 + 0x80 - 0x80) = v := by omega
  rw [readFrom_lead _ _ _ (by omega) hlead, readFrom_next _ _ _ (by omega) hfrom hto (by simp),
    readFrom_last _ _ _ (by omega) (by simp) (by simp; omega) (by simp), hcode]

theorem readFrom_of_four (hlow : 0x10000 ≤ v) (hhigh : v < 0x110000) :
    readFrom none (.ofNat (v / 0x40000 + 0xF0) :: .ofNat (v / 0x1000 % 0x40 + 0x80) ::
      .ofNat (v / 0x40 % 0x40 + 0x80) :: .ofNat (v % 0x40 + 0x80) :: rest) =
      some (.ofNat v) :: readFrom none rest := by
  obtain ⟨low, high, hlead, hfrom, hto⟩ := exists_ofOctet_of_four v hlow hhigh
  have hcode : ((v / 0x40000 * 0x40 + (v / 0x1000 % 0x40 + 0x80 - 0x80)) * 0x40 +
      (v / 0x40 % 0x40 + 0x80 - 0x80)) * 0x40 + (v % 0x40 + 0x80 - 0x80) = v := by omega
  rw [readFrom_lead _ _ _ (by omega) hlead, readFrom_next _ _ _ (by omega) hfrom hto (by simp),
    readFrom_next _ _ _ (by omega) (by simp) (by simp; omega) (by simp),
    readFrom_last _ _ _ (by omega) (by simp) (by simp; omega) (by simp), hcode]

end Codes

/-- A character is read back from its octets, whatever follows. -/
theorem readFrom_utf8EncodeChar_append (c : Char) (rest : List UInt8) :
    readFrom none (String.utf8EncodeChar c ++ rest) = some c :: readFrom none rest := by
  have hvalid : c.val.toNat < 0xD800 ∨ 0xDFFF < c.val.toNat ∧ c.val.toNat < 0x110000 := c.valid
  have hchar : Char.ofNat c.val.toNat = c := Char.ofNat_toNat c
  unfold String.utf8EncodeChar
  generalize c.val.toNat = v at hvalid hchar
  subst hchar
  dsimp only
  split
  · exact readFrom_of_one v rest (by omega)
  · split
    · have hfirst : v / 64 % 32 = v / 64 := Nat.mod_eq_of_lt (by omega)
      rw [hfirst]
      exact readFrom_of_two v rest (by omega) (by omega)
    · split
      · have hfirst : v / 4096 % 16 = v / 4096 := Nat.mod_eq_of_lt (by omega)
        rw [hfirst]
        exact readFrom_of_three v rest (by omega) (by omega) (by omega)
      · have hfirst : v / 262144 % 8 = v / 262144 := Nat.mod_eq_of_lt (by omega)
        rw [hfirst]
        exact readFrom_of_four v rest (by omega) (by omega)

/-! ## The octets of a text -/

theorem read_encode (s : String) : read (encode s) = s.toList.map some := by
  rw [encode_eq, read]
  induction s.toList with
  | nil => rfl
  | cons c chars ih => rw [List.flatMap_cons, readFrom_utf8EncodeChar_append, ih, List.map_cons]

theorem decodeLossy_encode (s : String) : decodeLossy (encode s) = s := by
  rw [decodeLossy, read_encode, List.map_map]
  change String.ofList (s.toList.map id) = s
  rw [List.map_id, String.ofList_toList]

end Crawlability.Text.Utf8
