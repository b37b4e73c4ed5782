import Mathlib.Data.List.Basic

/-!
# Base64

The encoding of bytes with the standard alphabet and padding, and a decoder that reads
both alphabets, skips what is in neither and stops at the padding.
-/

namespace Base64

def digit (n : ℕ) : Char :=
  if n < 26 then Char.ofNat (n + 65)
  else if n < 52 then Char.ofNat (n + 71)
  else if n < 62 then Char.ofNat (n - 4)
  else if n = 62 then '+'
  else '/'

def value (c : Char) : Option ℕ :=
  if 65 ≤ c.toNat ∧ c.toNat ≤ 90 then some (c.toNat - 65)
  else if 97 ≤ c.toNat ∧ c.toNat ≤ 122 then some (c.toNat - 71)
  else if 48 ≤ c.toNat ∧ c.toNat ≤ 57 then some (c.toNat + 4)
  else if c = '+' ∨ c = '-' then some 62
  else if c = '/' ∨ c = '_' then some 63
  else none

/-- Three bytes make four digits; one or two are padded. -/
def encode : List UInt8 → List Char
  | [] => []
  | [a] => [digit (a.toNat / 4), digit (a.toNat % 4 * 16), '=', '=']
  | [a, b] => [digit (a.toNat / 4), digit (a.toNat % 4 * 16 + b.toNat / 16),
      digit (b.toNat % 16 * 4), '=']
  | a :: b :: c :: rest =>
    digit (a.toNat / 4) :: digit (a.toNat % 4 * 16 + b.toNat / 16) ::
      digit (b.toNat % 16 * 4 + c.toNat / 64) :: digit (c.toNat % 64) :: encode rest

def ofDigits : List ℕ → List UInt8
  | a :: b :: c :: d :: rest =>
    UInt8.ofNat (a * 4 + b / 16) :: UInt8.ofNat (b % 16 * 16 + c / 4) ::
      UInt8.ofNat (c % 4 * 64 + d) :: ofDigits rest
  | [a, b, c] => [UInt8.ofNat (a * 4 + b / 16), UInt8.ofNat (b % 16 * 16 + c / 4)]
  | [a, b] => [UInt8.ofNat (a * 4 + b / 16)]
  | _ => []

def decode (cs : List Char) : List UInt8 := ofDigits ((cs.takeWhile (· ≠ '=')).filterMap value)

theorem digit_spec : ∀ n < 64, value (digit n) = some n ∧ digit n ≠ '=' := by
  decide +kernel

theorem digits_cons {n : ℕ} (h : n < 64) (cs : List Char) :
    ((digit n :: cs).takeWhile (· ≠ '=')).filterMap value =
      n :: (cs.takeWhile (· ≠ '=')).filterMap value := by
  rw [List.takeWhile_cons_of_pos (by simpa using (digit_spec n h).2),
    List.filterMap_cons_some (digit_spec n h).1]

theorem digits_pad (cs : List Char) :
    (('=' :: cs).takeWhile (· ≠ '=')).filterMap value = [] := by
  simp

theorem ofNat_byte {n : ℕ} {a : UInt8} (h : n = a.toNat) : UInt8.ofNat n = a := by
  rw [h, UInt8.ofNat_toNat]

theorem decode_encode (bytes : List UInt8) : decode (encode bytes) = bytes := by
  induction bytes using encode.induct with
  | case1 => rfl
  | case2 a =>
    have ha := a.toNat_lt
    rw [decode, encode, digits_cons (by omega), digits_cons (by omega), digits_pad, ofDigits,
      ofNat_byte (a := a) (by omega)]
  | case3 a b =>
    have ha := a.toNat_lt
    have hb := b.toNat_lt
    rw [decode, encode, digits_cons (by omega), digits_cons (by omega), digits_cons (by omega),
      digits_pad, ofDigits, ofNat_byte (a := a) (by omega), ofNat_byte (a := b) (by omega)]
  | case4 a b c rest ih =>
    have ha := a.toNat_lt
    have hb := b.toNat_lt
    have hc := c.toNat_lt
    rw [decode, encode, digits_cons (by omega), digits_cons (by omega), digits_cons (by omega),
      digits_cons (by omega), ofDigits, ofNat_byte (a := a) (by omega),
      ofNat_byte (a := b) (by omega), ofNat_byte (a := c) (by omega)]
    exact congrArg (a :: b :: c :: ·) ih

theorem encode_eq_nil {bytes : List UInt8} : encode bytes = [] ↔ bytes = [] := by
  refine ⟨fun h => ?_, fun h => by rw [h]; rfl⟩
  have hread := decode_encode bytes
  rw [h] at hread
  exact hread.symm

theorem isSome_value_of_mem_encode {bytes : List UInt8} {c : Char} (h : c ∈ encode bytes) :
    (value c).isSome ∨ c = '=' := by
  have hdigit : ∀ n < 64, (value (digit n)).isSome := fun n hn => by rw [(digit_spec n hn).1]; rfl
  induction bytes using encode.induct with
  | case1 => cases h
  | case2 a =>
    have ha := a.toNat_lt
    simp only [encode, List.mem_cons, List.not_mem_nil, or_false] at h
    obtain rfl | rfl | h | h := h
    · exact .inl (hdigit _ (by omega))
    · exact .inl (hdigit _ (by omega))
    · exact .inr h
    · exact .inr h
  | case3 a b =>
    have ha := a.toNat_lt
    have hb := b.toNat_lt
    simp only [encode, List.mem_cons, List.not_mem_nil, or_false] at h
    obtain rfl | rfl | rfl | h := h
    · exact .inl (hdigit _ (by omega))
    · exact .inl (hdigit _ (by omega))
    · exact .inl (hdigit _ (by omega))
    · exact .inr h
  | case4 a b c rest ih =>
    have ha := a.toNat_lt
    have hb := b.toNat_lt
    have hc := c.toNat_lt
    simp only [encode, List.mem_cons] at h
    obtain rfl | rfl | rfl | rfl | h := h
    · exact .inl (hdigit _ (by omega))
    · exact .inl (hdigit _ (by omega))
    · exact .inl (hdigit _ (by omega))
    · exact .inl (hdigit _ (by omega))
    · exact ih h

end Base64
