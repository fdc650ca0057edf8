import Mathlib.Algebra.Group.Nat.Defs
import Mathlib.Data.List.TakeWhile
import TenantEndpoints.Timestamp

/-!
# Timestamps that are written

A timestamp that is read exists, because the instant of a local time falls on a day of the
calendar again, and every timestamp that exists is read from its text as it is.
-/
namespace TenantEndpoints

namespace Text

namespace Reads
variable {r : Reads α} {f : α → Reads β} {s s' : List Char} {a : α}

/-- What is read next is read from what the first reader leaves. -/
theorem bind_of_eq (h : r s = some (a, s')) : (r >>= f) s = f a s' := by
  change (r s).bind _ = _
  rw [h]
  rfl

theorem exists_of_bind {b : β} (h : (r >>= f) s = some (b, s')) :
    ∃ a s₁, r s = some (a, s₁) ∧ f a s₁ = some (b, s') := by
  obtain ⟨⟨a, s₁⟩, hr, hf⟩ := Option.bind_eq_some_iff.1 h
  exact ⟨a, s₁, hr, hf⟩

theorem orElse_of_eq_none {r' : Reads α} (h : r s = none) : (r <|> r') s = r' s := by
  change (r s <|> r' s) = _
  rw [h]
  rfl

theorem orElse_of_eq_some {r' : Reads α} {x : α × List Char} (h : r s = some x) :
    (r <|> r') s = some x := by
  change (r s <|> r' s) = _
  rw [h]
  rfl

theorem expect_cons (c : Char) (s : List Char) : expect c (c :: s) = some ((), s) := by
  unfold expect
  have hone : one (· = c) (c :: s) = some (c, s) := by simp [one]
  rw [bind_of_eq hone]
  rfl

theorem expect_of_ne {c d : Char} (h : d ≠ c) (s : List Char) : expect c (d :: s) = none := by
  have hone : one (· = c) (d :: s) = none := by simp [one, h]
  change (one (· = c) (d :: s)).bind _ = none
  rw [hone]
  rfl

theorem blanks_cons {c : Char} (h : isBlank c = false) (s : List Char) :
    blanks (c :: s) = some ((), c :: s) := by
  change some ((), (c :: s).dropWhile isBlank) = _
  rw [List.dropWhile_cons_of_neg (by rw [h]; decide)]

/-- Digits are read as a number as far as they may be, up to what is no digit. -/
theorem number_append {most : Nat} {ds : List Char} (hne : ds ≠ []) (hds : ds.all isDigit = true)
    {rest : List Char} (hrest : ds.length = most ∨
      ds.length ≤ most ∧ ∀ c, rest.head? = some c → isDigit c = false) :
    number most (ds ++ rest) = some (digitsValue ds, rest) := by
  have htaken : ((ds ++ rest).take most).takeWhile isDigit = ds := by
    rcases hrest with rfl | ⟨hle, hhead⟩
    · rw [List.take_left, List.takeWhile_eq_self_iff.2 (List.all_eq_true.1 hds)]
    · rw [List.take_append, List.take_of_length_le hle,
        List.takeWhile_append_of_pos (List.all_eq_true.1 hds)]
      cases rest with
      | nil => simp
      | cons c rest =>
        cases most - ds.length with
        | zero => simp
        | succ n =>
          rw [List.take_succ_cons, List.takeWhile_cons_of_neg (by rw [hhead c rfl]; decide),
            List.append_nil]
  simp only [number, htaken, if_neg hne, List.drop_left]

end Reads

/-- Leading zeros do not count. -/
theorem digitsValue_zeros (n : Nat) (ds : List Char) :
    digitsValue (List.replicate n '0' ++ ds) = digitsValue ds := by
  induction n with
  | zero => rfl
  | succ n ih => exact ih

theorem digitsValue_toDigits (n : Nat) : digitsValue (Nat.toDigits 10 n) = n := by
  have hfold : digitsValue (Nat.toDigits 10 n) = Nat.ofDigitChars 10 (Nat.toDigits 10 n) 0 := by
    simp only [digitsValue, Nat.ofDigitChars, Nat.mul_comm]
  rw [hfold, Nat.ofDigitChars_ten_toDigits]

theorem isDigit_toDigits {n : Nat} {c : Char} (h : c ∈ Nat.toDigits 10 n) : isDigit c = true := by
  have hdigit := Nat.isDigit_of_mem_toDigits (by decide) (by decide) h
  simpa [Char.isDigit, isDigit, Char.le_def] using hdigit

/-- Digits are no blanks. -/
theorem not_isBlank_of_isDigit {c : Char} (h : isDigit c = true) : isBlank c = false := by
  have hrange : 48 ≤ c.toNat ∧ c.toNat ≤ 57 := by
    simpa [isDigit, Char.le_def, UInt32.le_iff_toNat_le] using h
  rw [isBlank_of_ascii (by omega)]
  exact decide_eq_false (by omega)

end Text

namespace Timestamp
open Text (Reads isDigit digitsValue isBlank)

section Padded
variable {width n : Nat}

theorem padded_ne_nil : padded width n ≠ [] := by
  simp [padded, Nat.toDigits_ne_nil]

theorem padded_all_isDigit : (padded width n).all isDigit = true := by
  rw [List.all_eq_true]
  intro c hc
  rcases List.mem_append.1 hc with hc | hc
  · rw [List.eq_of_mem_replicate hc]
    decide
  · exact Text.isDigit_toDigits hc

theorem digitsValue_padded : digitsValue (padded width n) = n := by
  rw [padded, Text.digitsValue_zeros, Text.digitsValue_toDigits]

theorem length_padded (hwidth : 0 < width) (h : n < 10 ^ width) :
    (padded width n).length = width := by
  have hle := (Nat.length_toDigits_le_iff (by decide) hwidth).2 h
  simp only [padded, List.length_append, List.length_replicate]
  omega

theorem exists_padded_cons (width n : Nat) : ∃ c ds, padded width n = c :: ds ∧ isDigit c = true := by
  obtain ⟨c, ds, h⟩ : ∃ c ds, padded width n = c :: ds := List.exists_cons_of_ne_nil padded_ne_nil
  have hall : (padded width n).all isDigit = true := padded_all_isDigit
  rw [h, List.all_cons, Bool.and_eq_true] at hall
  exact ⟨c, ds, h, hall.1⟩

/-- A part of two digits is read up to its end. -/
theorem readPart_padded (h : n < 100) (rest : List Char) :
    readPart (padded 2 n ++ rest) = some (n, rest) := by
  unfold readPart
  obtain ⟨c, ds, hcons, hc⟩ := exists_padded_cons 2 n
  have hblanks : Reads.blanks (padded 2 n ++ rest) = some ((), padded 2 n ++ rest) := by
    rw [hcons]
    exact Reads.blanks_cons (Text.not_isBlank_of_isDigit hc) _
  rw [Reads.bind_of_eq hblanks, Reads.number_append padded_ne_nil padded_all_isDigit
    (.inl (length_padded (by decide) h)), digitsValue_padded]

theorem digits_padded {c : Char} (h : isDigit c = false) (rest : List Char) :
    Reads.digits (padded width n ++ c :: rest) = some (n, c :: rest) := by
  unfold Reads.digits
  rw [Reads.number_append padded_ne_nil padded_all_isDigit (.inr ⟨by simp, ?_⟩), digitsValue_padded]
  rintro _ he
  cases he
  exact h

end Padded

theorem readMark_cons {c : Char} (h : isBlank c = false) (rest : List Char) :
    readMark c (c :: rest) = some ((), rest) := by
  unfold readMark
  rw [Reads.bind_of_eq (Reads.blanks_cons h _), Reads.expect_cons]

/-- Reads a number of any length after a sign. -/
def readSigned (sign : Char) (ofNat : Nat → Int) : Reads Int := do
  Reads.expect sign
  return ofNat (← Reads.digits)

theorem readSigned_cons (sign : Char) (ofNat : Nat → Int) (width n : Nat) (rest : List Char) :
    readSigned sign ofNat (sign :: (padded width n ++ '-' :: rest)) =
      some (ofNat n, '-' :: rest) := by
  unfold readSigned
  rw [Reads.bind_of_eq (Reads.expect_cons sign _), Reads.bind_of_eq (digits_padded (by decide) rest)]
  rfl

theorem readSigned_of_ne {sign c : Char} (h : c ≠ sign) (ofNat : Nat → Int) (s : List Char) :
    readSigned sign ofNat (c :: s) = none := by
  change (Reads.expect sign (c :: s)).bind _ = none
  rw [Reads.expect_of_ne h]
  rfl

theorem readYear_eq : readYear = (do
    Reads.blanks
    readSigned '-' Int.negOfNat <|> readSigned '+' Int.ofNat <|> (return (← Reads.number 4))) := rfl

/-- A year is read up to the mark after it, whatever its sign and however many digits it has. -/
theorem readYear_yearText (year : Int) (rest : List Char) :
    readYear (yearText year ++ '-' :: rest) = some (year, '-' :: rest) := by
  rw [readYear_eq]
  unfold yearText
  split
  · next hneg =>
    have hyear : Int.negOfNat year.natAbs = year := by
      rw [Int.negOfNat_eq, Int.ofNat_eq_natCast]
      omega
    rw [List.cons_append, Reads.bind_of_eq (Reads.blanks_cons (by decide) _),
      Reads.orElse_of_eq_some (readSigned_cons '-' Int.negOfNat 4 year.natAbs rest), hyear]
  split
  · next hneg hlong =>
    have hyear : Int.ofNat year.natAbs = year := by
      rw [Int.ofNat_eq_natCast]
      omega
    have hplus : '+' ≠ '-' := by decide
    rw [List.cons_append, Reads.bind_of_eq (Reads.blanks_cons (by decide) _),
      Reads.orElse_of_eq_none (readSigned_of_ne hplus Int.negOfNat _),
      Reads.orElse_of_eq_some (readSigned_cons '+' Int.ofNat 4 year.natAbs rest), hyear]
  · next hneg hshort =>
    have hyear : (year.natAbs : Int) = year := by omega
    obtain ⟨c, ds, hcons, hc⟩ := exists_padded_cons 4 year.natAbs
    have hne {sign : Char} (hsign : isDigit sign = false) : c ≠ sign := by
      rintro rfl
      rw [hsign] at hc
      cases hc
    have hnumber : Reads.number 4 (c :: (ds ++ '-' :: rest)) =
        some (year.natAbs, '-' :: rest) := by
      rw [← List.cons_append, ← hcons, Reads.number_append padded_ne_nil padded_all_isDigit
        (.inl (length_padded (by decide) (by omega))), digitsValue_padded]
    rw [hcons, List.cons_append,
      Reads.bind_of_eq (Reads.blanks_cons (Text.not_isBlank_of_isDigit hc) _),
      Reads.orElse_of_eq_none (readSigned_of_ne (hne (by decide)) Int.negOfNat _),
      Reads.orElse_of_eq_none (readSigned_of_ne (hne (by decide)) Int.ofNat _),
      Reads.bind_of_eq hnumber]
    exact congrArg (fun y => some (y, '-' :: rest)) hyear

theorem daysInMonth_bounds (year : Int) (month : Nat) :
    1 ≤ daysInMonth year month ∧ daysInMonth year month ≤ 31 := by
  unfold daysInMonth
  split
  · split <;> omega
  · split <;> omega

theorem readLocal_text {t : Timestamp} (h : t.Exists) :
    readLocal t.text.toList = some (t, ['Z']) := by
  obtain ⟨_, hmonth, _, hday, hhour, hminute, hsecond⟩ := h
  have hdays : daysInMonth t.year t.month ≤ 31 := (daysInMonth_bounds _ _).2
  unfold readLocal text
  rw [String.toList_ofList]
  simp only [List.append_assoc, List.cons_append]
  have hsep (s : List Char) : Reads.one (· ∈ ['T', 't', ' ']) ('T' :: s) = some ('T', s) := by
    simp [Reads.one]
  rw [Reads.bind_of_eq (readYear_yearText _ _), Reads.bind_of_eq (readMark_cons (by decide) _),
    Reads.bind_of_eq (readPart_padded (by omega) _), Reads.bind_of_eq (readMark_cons (by decide) _),
    Reads.bind_of_eq (readPart_padded (by omega) _), Reads.bind_of_eq (hsep _),
    Reads.bind_of_eq (readPart_padded (by omega) _), Reads.bind_of_eq (readMark_cons (by decide) _),
    Reads.bind_of_eq (readPart_padded (by omega) _), Reads.bind_of_eq (readMark_cons (by decide) _),
    Reads.bind_of_eq (readPart_padded (by omega) _)]
  rfl

section Calendar
variable {t : Timestamp} {offset : Int}

theorem exists_nextDay (h : t.Exists) : t.nextDay.Exists := by
  obtain ⟨hfirst, hlast, hday, hdays, htime⟩ := h
  unfold nextDay
  split
  · next hroom => exact ⟨hfirst, hlast, Nat.le_add_left 1 t.day, hroom, htime⟩
  split
  · next hmonth =>
    exact ⟨Nat.le_add_left 1 t.month, hmonth, le_refl 1, (daysInMonth_bounds _ _).1, htime⟩
  · exact ⟨le_refl 1, Nat.le_add_right 1 11, le_refl 1, (daysInMonth_bounds _ _).1, htime⟩

theorem exists_previousDay (h : t.Exists) : t.previousDay.Exists := by
  obtain ⟨hfirst, hlast, hday, hdays, htime⟩ := h
  unfold previousDay
  split
  · exact ⟨hfirst, hlast, by dsimp only; omega, Nat.le_trans (Nat.sub_le t.day 1) hdays, htime⟩
  split
  · exact ⟨by dsimp only; omega, by dsimp only; omega, (daysInMonth_bounds _ _).1, le_refl _, htime⟩
  · exact ⟨Nat.le_add_right 1 11, le_refl 12, Nat.le_add_right 1 30, by simp [daysInMonth], htime⟩

/-- A day stays one whatever minute of it is meant. -/
theorem exists_ofMinute (h : t.Exists) {n : Nat} (hn : n < 1440) :
    Exists { t with hour := n / 60, minute := n % 60 } := by
  obtain ⟨hfirst, hlast, hday, hdays, _, _, hsecond⟩ := h
  exact ⟨hfirst, hlast, hday, hdays, by dsimp only; omega, by dsimp only; omega, hsecond⟩

/-- A local time that is less than a day ahead of UTC or behind it is an instant of the calendar. -/
theorem exists_ofLocal (h : t.Exists) (hahead : offset < 1440) (hbehind : -1440 < offset) :
    (t.ofLocal offset).Exists := by
  have hhour : t.hour ≤ 23 := h.2.2.2.2.1
  have hminute : t.minute ≤ 59 := h.2.2.2.2.2.1
  unfold ofLocal
  dsimp only
  split
  · exact exists_ofMinute (exists_previousDay h) (by omega)
  split
  · exact exists_ofMinute (exists_nextDay h) (by omega)
  · exact exists_ofMinute h (by omega)

theorem ofLocal_zero (h : t.Exists) : t.ofLocal 0 = t := by
  have hhour : t.hour ≤ 23 := h.2.2.2.2.1
  have hminute : t.minute ≤ 59 := h.2.2.2.2.2.1
  unfold ofLocal
  rw [if_neg (by omega), if_neg (by omega)]
  dsimp only
  have hminutes : ((t.hour * 60 + t.minute - 0 : Int)).toNat = t.hour * 60 + t.minute := by omega
  have hdiv : (t.hour * 60 + t.minute) / 60 = t.hour := by omega
  have hmod : (t.hour * 60 + t.minute) % 60 = t.minute := by omega
  rw [hminutes, hdiv, hmod]

theorem readShift_bounds {s s' : List Char} (h : readShift s = some (offset, s')) :
    offset < 1440 ∧ -1440 < offset := by
  unfold readShift at h
  obtain ⟨sign, s₁, _, h⟩ := Reads.exists_of_bind h
  obtain ⟨hours, s₂, _, h⟩ := Reads.exists_of_bind h
  obtain ⟨_, s₃, _, h⟩ := Reads.exists_of_bind h
  obtain ⟨minutes, s₄, _, h⟩ := Reads.exists_of_bind h
  by_cases hbounds : 23 < hours ∨ 59 < minutes
  · simp only [if_pos hbounds] at h
    obtain ⟨_, _, hfailure, _⟩ := Reads.exists_of_bind h
    cases hfailure
  · simp only [if_neg hbounds] at h
    obtain ⟨rfl, _⟩ := Prod.mk.inj (Option.some.inj h)
    split
    · omega
    · rw [Int.negOfNat_eq, Int.ofNat_eq_natCast]
      omega

theorem readOffset_bounds {s s' : List Char} (h : readOffset s = some (offset, s')) :
    offset < 1440 ∧ -1440 < offset := by
  unfold readOffset at h
  obtain ⟨_, s₁, _, h⟩ := Reads.exists_of_bind h
  obtain ⟨s₂, s₃, _, h⟩ := Reads.exists_of_bind h
  split at h
  · cases h
    decide
  split at h
  · cases h
    decide
  · exact readShift_bounds h

end Calendar

/-- Reads a local time, its offset from UTC, and the blanks behind them. -/
def readWhole : Reads (Timestamp × Int) := do
  let t ← readLocal
  let offset ← readOffset
  Reads.blanks
  return (t, offset)

theorem read?_eq (s : String) : read? s = (readWhole.all? s.toList).bind fun read =>
    if read.1.Exists ∧ read.1.hasYear ∧ (read.1.ofLocal read.2).hasYear then
      some (read.1.ofLocal read.2) else none := rfl

/-- Only what exists is read. -/
theorem exists_of_read? {s : String} {t : Timestamp} (h : read? s = some t) :
    t.Exists ∧ t.hasYear = true := by
  rw [read?_eq] at h
  obtain ⟨⟨local', offset⟩, hread, h⟩ := Option.bind_eq_some_iff.1 h
  split at h
  · next hchecked =>
    cases h
    obtain ⟨hexists, _, hyear⟩ := hchecked
    refine ⟨?_, hyear⟩
    unfold Reads.all? at hread
    split at hread
    · next _ _ hwhole =>
      cases hread
      obtain ⟨_, s₁, _, hwhole⟩ := Reads.exists_of_bind hwhole
      obtain ⟨_, s₂, hoffset, hwhole⟩ := Reads.exists_of_bind hwhole
      obtain ⟨_, s₃, _, hwhole⟩ := Reads.exists_of_bind hwhole
      cases hwhole
      obtain ⟨hahead, hbehind⟩ := readOffset_bounds hoffset
      exact exists_ofLocal hexists hahead hbehind
    · cases hread
  · cases h

/-- A timestamp that exists is read from its text as it is. -/
theorem read?_text {t : Timestamp} (h : t.Exists) (hyear : t.hasYear = true) :
    read? t.text = some t := by
  have hwhole : readWhole t.text.toList = some ((t, 0), []) := by
    have hoffset : readOffset ['Z'] = some (0, []) := by decide +kernel
    unfold readWhole
    rw [Reads.bind_of_eq (readLocal_text h), Reads.bind_of_eq hoffset]
    rfl
  have hall : readWhole.all? t.text.toList = some (t, 0) := by
    unfold Reads.all?
    rw [hwhole]
  rw [read?_eq, hall]
  change (if t.Exists ∧ t.hasYear = true ∧ (t.ofLocal 0).hasYear = true then
    some (t.ofLocal 0) else none) = _
  rw [ofLocal_zero h, if_pos ⟨h, hyear, hyear⟩]

end Timestamp

end TenantEndpoints
