import SkillAudit.Text.Utf8
/-!
# SkillAudit.Proofs.Text.Utf8

Reading ASCII: every byte is a character by itself, so that a text in ASCII is read back from its
bytes.
-/

namespace SkillAudit.Utf8

/-- A byte below 128 is read by itself. -/
theorem decodeFrom_cons_ascii {b : UInt8} (h : b.toNat < 0x80) (rest : List UInt8) :
    decodeFrom none (b :: rest) = Char.ofNat b.toNat :: decodeFrom none rest := by
  rw [decodeFrom, decodeFrom.begin, if_pos h]

/-- ASCII is read byte by byte. -/
theorem decode_ascii {bytes : List UInt8} (h : bytes.all fun b => b.toNat < 0x80) :
    decode bytes = bytes.map fun b => Char.ofNat b.toNat := by
  rw [decode]
  induction bytes with
  | nil => rw [decodeFrom, List.map_nil]
  | cons b rest ih =>
    rw [List.all_cons, Bool.and_eq_true, decide_eq_true_iff] at h
    rw [decodeFrom_cons_ascii h.1, List.map_cons, ih h.2]

/-- Whether every character of a text is in ASCII. -/
def isAscii (s : List Char) : Bool := s.all fun c => c.toNat < 0x80

/-- The bytes of an ASCII text, one for each character. -/
def asciiBytes (text : String) : List UInt8 := text.toList.map fun c => c.toNat.toUInt8

/-- The byte of an ASCII character has its number. -/
theorem toNat_toUInt8_of_lt {n : Nat} (h : n < 0x80) : n.toUInt8.toNat = n := by
  simp only [Nat.toUInt8_eq, UInt8.toNat_ofNat']
  omega

/-- An ASCII text is read back from its bytes. -/
theorem decode_asciiBytes {text : String} (h : isAscii text.toList) :
    decode (asciiBytes text) = text.toList := by
  have hlow : ∀ c ∈ text.toList, c.toNat < 0x80 := by
    simpa only [isAscii, List.all_eq_true, decide_eq_true_iff] using h
  have hbytes : (asciiBytes text).all fun b => b.toNat < 0x80 := by
    rw [asciiBytes, List.all_map, List.all_eq_true]
    intro c hc
    simpa [toNat_toUInt8_of_lt (hlow c hc)] using hlow c hc
  rw [decode_ascii hbytes, asciiBytes, List.map_map]
  refine (List.map_congr_left fun c hc => ?_).trans (List.map_id _)
  rw [Function.comp_apply, toNat_toUInt8_of_lt (hlow c hc), Char.ofNat_toNat, id]

end SkillAudit.Utf8
