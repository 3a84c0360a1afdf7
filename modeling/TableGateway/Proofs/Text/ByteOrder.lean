/-!
# The order of bytes

Texts ascend by the order of their characters. This is the order of the bytes that they are encoded
by: in UTF-8 the first byte tells how long the encoding of a character is, longer encodings start
with greater bytes and are those of greater characters, and encodings of the same length hold the
bits of a character from the highest to the lowest.

* `Text.bytes` are the bytes of a text.
* `Text.lt_iff_bytes_lt` says that texts are ordered as their bytes are.
-/

namespace TableGateway.Text

/-- The bytes of a text. -/
def bytes (s : String) : List UInt8 := s.toUTF8.data.toList

theorem bytes_eq (s : String) : bytes s = s.toList.flatMap String.utf8EncodeChar := by
  rw [bytes, String.toUTF8, ← String.utf8Encode_toList, List.utf8Encode,
    List.toList_data_toByteArray]

/-- The bytes encode a character with the number. There is one rule for each length; a character
takes no more bytes than it needs. -/
inductive Encodes (n : Nat) : List UInt8 → Prop where
  | one (h : n < 128) : Encodes n [.ofNat n]
  | two {a b : Nat} (hn : n = 64 * a + b) (h : 128 ≤ n) (ha : a < 32) (hb : b < 64) :
    Encodes n [.ofNat (a + 192), .ofNat (b + 128)]
  | three {a b c : Nat} (hn : n = 64 * (64 * a + b) + c) (h : 2048 ≤ n) (ha : a < 16) (hb : b < 64)
    (hc : c < 64) : Encodes n [.ofNat (a + 224), .ofNat (b + 128), .ofNat (c + 128)]
  | four {a b c d : Nat} (hn : n = 64 * (64 * (64 * a + b) + c) + d) (h : 65536 ≤ n) (ha : a < 8)
    (hb : b < 64) (hc : c < 64) (hd : d < 64) :
    Encodes n [.ofNat (a + 240), .ofNat (b + 128), .ofNat (c + 128), .ofNat (d + 128)]

theorem encodes_utf8EncodeChar (c : Char) : Encodes c.toNat (String.utf8EncodeChar c) := by
  have hbound : c.toNat < 0x110000 := by
    rcases c.valid with h | ⟨-, h⟩
    · exact Nat.lt_trans h (by decide)
    · exact h
  have hval : c.val.toNat = c.toNat := rfl
  rw [String.utf8EncodeChar, hval]
  generalize c.toNat = n at *
  split
  · exact .one (by omega)
  split
  · exact .two (by omega) (by omega) (by omega) (by omega)
  split
  · exact .three (by omega) (by omega) (by omega) (by omega) (by omega)
  · exact .four (by omega) (by omega) (by omega) (by omega) (by omega) (by omega)

/-- Encodings of different characters differ in a byte before either of them ends. -/
theorem Encodes.append_lt {n m : Nat} {us vs : List UInt8} (h : Encodes n us) (h' : Encodes m vs)
    (hlt : n < m) (xs ys : List UInt8) : us ++ xs < vs ++ ys := by
  have hbyte : ∀ {a b : Nat} {us vs : List UInt8}, a < 256 → b < 256 →
      (UInt8.ofNat a :: us < UInt8.ofNat b :: vs ↔ a < b ∨ a = b ∧ us < vs) := by
    intro a b us vs ha hb
    rw [List.cons_lt_cons_iff, UInt8.lt_iff_toNat_lt, ← UInt8.toNat_inj, UInt8.toNat_ofNat',
      UInt8.toNat_ofNat', Nat.mod_eq_of_lt ha, Nat.mod_eq_of_lt hb]
  cases h <;> cases h' <;>
    simp (disch := omega) only [List.cons_append, List.nil_append, hbyte] <;> omega

theorem flatMap_utf8EncodeChar_lt {cs ds : List Char} (h : cs < ds) :
    cs.flatMap String.utf8EncodeChar < ds.flatMap String.utf8EncodeChar := by
  induction cs generalizing ds with
  | nil =>
    cases ds with
    | nil => exact absurd h (List.lt_irrefl _)
    | cons d ds =>
      obtain ⟨b, bs, hd⟩ := List.exists_cons_of_ne_nil (String.utf8EncodeChar_ne_nil (c := d))
      rw [List.flatMap_cons, hd, List.cons_append]
      exact List.nil_lt_cons b _
  | cons c cs ih =>
    cases ds with
    | nil => cases h
    | cons d ds =>
      rw [List.flatMap_cons, List.flatMap_cons]
      rcases List.cons_lt_cons_iff.mp h with hlt | ⟨rfl, hlt⟩
      · exact (encodes_utf8EncodeChar c).append_lt (encodes_utf8EncodeChar d) hlt _ _
      · exact List.append_left_lt (ih hlt)

/-- Texts are ordered as their bytes are. -/
theorem lt_iff_bytes_lt {s t : String} : s < t ↔ bytes s < bytes t := by
  have hbytes : ∀ {s t : String}, s < t → bytes s < bytes t := by
    intro s t h
    rw [bytes_eq, bytes_eq]
    exact flatMap_utf8EncodeChar_lt (String.lt_iff.mp h)
  constructor
  · exact hbytes
  · intro h
    rcases Std.lt_trichotomy s t with hlt | rfl | hgt
    · exact hlt
    · exact absurd h (List.lt_irrefl _)
    · exact absurd h (List.lt_asymm (hbytes hgt))

end TableGateway.Text
