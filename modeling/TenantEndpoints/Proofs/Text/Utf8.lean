import TenantEndpoints.Text.Utf8

/-!
# Reading what was written

The bytes of a text are read as that text again. A written character begins
with a byte that says how many more there are, and each range of first bytes is
one case below.
-/
namespace TenantEndpoints.Text.Utf8

theorem isContinuation_ofNat {n : Nat} (h : n < 64) :
    isContinuation (UInt8.ofNat (n + 128)) = true := by
  unfold isContinuation
  rw [UInt8.toNat_ofNat_of_lt' (show n + 128 < 256 by omega)]
  simp only [Bool.and_eq_true, decide_eq_true_eq]
  omega

/-- Neither an overlong form nor a surrogate nor anything beyond the last code
point is ever written. -/
theorem mayFollow_of_le {first second : Nat} (hlow : 0x80 ≤ second) (hhigh : second ≤ 0xbf)
    (he0 : first = 0xe0 → 0xa0 ≤ second) (hf0 : first = 0xf0 → 0x90 ≤ second)
    (hed : first = 0xed → second ≤ 0x9f) (hf4 : first = 0xf4 → second ≤ 0x8f) :
    mayFollow first second = true := by
  unfold mayFollow
  simp only [Bool.and_eq_true, decide_eq_true_eq]
  constructor
  · split
    · next h => exact he0 h
    · split
      · next h => exact hf0 h
      · exact hlow
  · split
    · next h => exact hed h
    · split
      · next h => exact hf4 h
      · exact hhigh

section Bytes
variable {n a b c d : Nat}

theorem head_one (h : n < 128) (s : Bytes) : head (UInt8.ofNat n) s = .char (Char.ofNat n) 0 := by
  unfold head
  simp only [UInt8.toNat_ofNat_of_lt' (show n < 256 by omega)]
  rw [if_pos h]

theorem head_two (ha : 2 ≤ a) (ha' : a < 32) (hb : b < 64) (s : Bytes) :
    head (UInt8.ofNat (a + 192)) (UInt8.ofNat (b + 128) :: s) =
      .char (Char.ofNat (a * 64 + b)) 1 := by
  unfold head
  simp only [UInt8.toNat_ofNat_of_lt' (show a + 192 < 256 by omega),
    UInt8.toNat_ofNat_of_lt' (show b + 128 < 256 by omega), isContinuation_ofNat hb,
    Nat.add_sub_cancel]
  rw [if_neg (by omega), if_neg (by omega), if_pos (by omega), if_pos trivial]

theorem head_three (ha : a < 16) (hb : b < 64) (hc : c < 64)
    (hfollow : mayFollow (a + 224) (b + 128) = true) (s : Bytes) :
    head (UInt8.ofNat (a + 224)) (UInt8.ofNat (b + 128) :: UInt8.ofNat (c + 128) :: s) =
      .char (Char.ofNat (a * 4096 + b * 64 + c)) 2 := by
  unfold head
  simp only [UInt8.toNat_ofNat_of_lt' (show a + 224 < 256 by omega),
    UInt8.toNat_ofNat_of_lt' (show b + 128 < 256 by omega),
    UInt8.toNat_ofNat_of_lt' (show c + 128 < 256 by omega), isContinuation_ofNat hc, hfollow,
    Nat.add_sub_cancel]
  rw [if_neg (by omega), if_neg (by omega), if_neg (by omega), if_pos (by omega),
    if_neg (by simp), if_pos trivial]

theorem head_four (ha : a < 5) (hb : b < 64) (hc : c < 64) (hd : d < 64)
    (hfollow : mayFollow (a + 240) (b + 128) = true) (s : Bytes) :
    head (UInt8.ofNat (a + 240))
        (UInt8.ofNat (b + 128) :: UInt8.ofNat (c + 128) :: UInt8.ofNat (d + 128) :: s) =
      .char (Char.ofNat (a * 262144 + b * 4096 + c * 64 + d)) 3 := by
  unfold head
  simp only [UInt8.toNat_ofNat_of_lt' (show a + 240 < 256 by omega),
    UInt8.toNat_ofNat_of_lt' (show b + 128 < 256 by omega),
    UInt8.toNat_ofNat_of_lt' (show c + 128 < 256 by omega),
    UInt8.toNat_ofNat_of_lt' (show d + 128 < 256 by omega),
    isContinuation_ofNat hc, isContinuation_ofNat hd, hfollow, Nat.add_sub_cancel]
  rw [if_neg (by omega), if_neg (by omega), if_neg (by omega), if_neg (by omega),
    if_pos (by omega), if_neg (by simp), if_neg (by simp), if_pos trivial]

end Bytes

/-- A written character is read again, whatever comes after it: its bytes hold the digits of its
code point in base 64. -/
theorem head_encodeChar (c : Char) (s : Bytes) :
    ∃ b tail, String.utf8EncodeChar c = b :: tail ∧ head b (tail ++ s) = .char c tail.length := by
  have hvalid : c.val.toNat < 0xd800 ∨ 0xdfff < c.val.toNat ∧ c.val.toNat < 0x110000 := c.valid
  have hc : Char.ofNat c.val.toNat = c := Char.ofNat_toNat c
  unfold String.utf8EncodeChar
  generalize c.val.toNat = v at hvalid hc
  dsimp only
  split
  · next hone =>
    refine ⟨_, _, rfl, (head_one (by omega) _).trans ?_⟩
    rw [hc]
    rfl
  split
  · next htwo =>
    have hdigits : v / 64 % 32 * 64 + v % 64 = v := by omega
    refine ⟨_, _, rfl, (head_two (by omega) (by omega) (by omega) _).trans ?_⟩
    rw [hdigits, hc]
    rfl
  split
  · next hthree =>
    have hfollow : mayFollow (v / 4096 % 16 + 224) (v / 64 % 64 + 128) = true :=
      mayFollow_of_le (by omega) (by omega) (by omega) (by omega) (by omega) (by omega)
    have hdigits : v / 4096 % 16 * 4096 + v / 64 % 64 * 64 + v % 64 = v := by omega
    refine ⟨_, _, rfl, (head_three (by omega) (by omega) (by omega) hfollow _).trans ?_⟩
    rw [hdigits, hc]
    rfl
  · next hfour =>
    have hfollow : mayFollow (v / 262144 % 8 + 240) (v / 4096 % 64 + 128) = true :=
      mayFollow_of_le (by omega) (by omega) (by omega) (by omega) (by omega) (by omega)
    have hdigits : v / 262144 % 8 * 262144 + v / 4096 % 64 * 4096 + v / 64 % 64 * 64 + v % 64 =
        v := by omega
    refine ⟨_, _, rfl, (head_four (by omega) (by omega) (by omega) (by omega) hfollow _).trans ?_⟩
    rw [hdigits, hc]
    rfl

theorem decodeFrom_encode (index : Nat) (seen chars : List Char) :
    decodeFrom index seen (chars.flatMap String.utf8EncodeChar) = .ok (seen.reverse ++ chars) := by
  induction chars generalizing index seen with
  | nil =>
    unfold decodeFrom
    simp
  | cons c chars ih =>
    obtain ⟨b, tail, hencode, hhead⟩ := head_encodeChar c (chars.flatMap String.utf8EncodeChar)
    rw [List.flatMap_cons, hencode, List.cons_append]
    unfold decodeFrom
    simp only [hhead, List.drop_left]
    rw [ih]
    simp

/-- The bytes of a text are read as the text. -/
theorem decode_encode (s : String) : decode (encode s) = .ok s := by
  unfold decode encode
  rw [decodeFrom_encode]
  simp [Except.map]

end TenantEndpoints.Text.Utf8
