import Mathlib.Data.List.Basic
import TokenDesk.Proofs.Text.Written

/-!
# The order of texts

Texts are compared character by character. UTF-8 keeps this order: the bytes of a text stand before those of
a later one (`octets_lt`).
-/

set_option autoImplicit false

namespace TokenDesk.Text

theorem octets_eq (s : String) : octets s = s.toList.flatMap String.utf8EncodeChar := by
  have bytes : octets s = s.toList.utf8Encode.data.toList := by
    rw [octets, ByteArray.toList, toList_loop, String.utf8Encode_toList]
    rfl
  rw [bytes]
  induction s.toList with
  | nil => rfl
  | cons c cs ih =>
    rw [List.utf8Encode_cons, ByteArray.toList_data_append, ih, List.flatMap_cons,
      List.utf8Encode_singleton, List.data_toByteArray]

/-- The bytes of a character stand before those of a later one, whatever follows: with as many bytes the first
that differ are in the order of the code points, and more bytes begin with a larger one. -/
theorem utf8EncodeChar_lt {c d : Char} (less : c < d) (more other : Octets) :
    String.utf8EncodeChar c ++ more < String.utf8EncodeChar d ++ other := by
  have values : c.val.toNat < d.val.toNat := less
  have last : d.val.toNat < 0x110000 := by
    have valid := d.valid
    simp only [UInt32.isValidChar, Nat.isValidChar] at valid
    omega
  unfold String.utf8EncodeChar
  dsimp only
  generalize c.val.toNat = m at *
  generalize d.val.toNat = n at *
  split_ifs <;> simp only [List.cons_append, List.cons_lt_cons_iff, UInt8.lt_iff_toNat_lt,
    ← UInt8.toNat_inj, UInt8.toNat_ofNat']
  all_goals simp (disch := omega) only [Nat.mod_eq_of_lt]
  all_goals omega

theorem flatMap_utf8EncodeChar_lt {cs ds : List Char} (less : cs < ds) :
    cs.flatMap String.utf8EncodeChar < ds.flatMap String.utf8EncodeChar := by
  induction less with
  | @nil d ds =>
    have some_ : (d :: ds).flatMap String.utf8EncodeChar ≠ [] := by simp
    obtain ⟨byte, bytes, split⟩ := List.exists_cons_of_ne_nil some_
    rw [split]
    exact .nil
  | rel less => exact utf8EncodeChar_lt less _ _
  | cons later ih => exact List.append_left_lt ih

theorem octets_lt {a b : String} (less : a < b) : octets a < octets b := by
  rw [octets_eq, octets_eq]
  exact flatMap_utf8EncodeChar_lt (String.lt_iff.mp less)

end TokenDesk.Text
