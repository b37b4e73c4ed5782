import Mathlib.Data.List.TakeWhile
import Mathlib.Data.Rat.Defs

/-!
# Decimal numerals

A numeral has a sign, digits in front of a point and behind it, and an exponent. A scanner takes
the longest numeral off the front of a text, and leaves nothing of a text that is one.
-/

namespace Numeral

section Grammar

inductive Sign
  | bare | plus | minus
deriving DecidableEq, Repr

namespace Sign

def text : Sign → List Char
  | bare => []
  | plus => ['+']
  | minus => ['-']

def apply (sign : Sign) (n : ℕ) : ℤ :=
  match sign with
  | minus => -n
  | _ => n

end Sign

structure Exponent where
  mark : Char
  sign : Sign
  digits : List Char
deriving DecidableEq, Repr

/-- A numeral in its parts; the fraction is there where there is a point. -/
structure Parts where
  sign : Sign
  whole : List Char
  fraction : Option (List Char)
  exponent : Option Exponent
deriving DecidableEq, Repr

def natOf (digits : List Char) : ℕ := digits.foldl (fun n c => 10 * n + (c.toNat - '0'.toNat)) 0

def Exponent.text (e : Exponent) : List Char := e.mark :: (e.sign.text ++ e.digits)

structure Exponent.WellFormed (e : Exponent) : Prop where
  mark : e.mark = 'e' ∨ e.mark = 'E'
  digits : ∀ c ∈ e.digits, c.isDigit
  digits_ne_nil : e.digits ≠ []

namespace Parts

def fractionText (p : Parts) : List Char := p.fraction.elim [] ('.' :: ·)

def exponentText (p : Parts) : List Char := p.exponent.elim [] Exponent.text

def text (p : Parts) : List Char := p.sign.text ++ (p.whole ++ (p.fractionText ++ p.exponentText))

structure WellFormed (p : Parts) : Prop where
  whole : ∀ c ∈ p.whole, c.isDigit
  fraction : ∀ ds, p.fraction = some ds → ∀ c ∈ ds, c.isDigit
  exponent : ∀ e, p.exponent = some e → e.WellFormed
  some_digit : p.whole ≠ [] ∨ ∃ ds, p.fraction = some ds ∧ ds ≠ []

def power (p : Parts) : ℤ :=
  (p.exponent.elim 0 fun e => e.sign.apply (natOf e.digits)) - (p.fraction.getD []).length

def value (p : Parts) : ℚ :=
  p.sign.apply (natOf (p.whole ++ p.fraction.getD [])) * (10 : ℚ) ^ p.power

/-- What is in front of the point. -/
def leading (p : Parts) : ℤ := p.sign.apply (natOf p.whole)

end Parts

/-- The whole text is a numeral of the value. -/
def Denotes (t : List Char) (q : ℚ) : Prop := ∃ p : Parts, p.WellFormed ∧ p.text = t ∧ p.value = q

end Grammar

section Scanner

def digits (t : List Char) : List Char := t.takeWhile Char.isDigit

def afterDigits (t : List Char) : List Char := t.dropWhile Char.isDigit

def scanSign : List Char → Sign × List Char
  | [] => (.bare, [])
  | c :: t => if c = '+' then (.plus, t) else if c = '-' then (.minus, t) else (.bare, c :: t)

def scanFraction : List Char → Option (List Char) × List Char
  | [] => (none, [])
  | c :: t => if c = '.' then (some (digits t), afterDigits t) else (none, c :: t)

/-- An exponent without digits is none. -/
def scanExponent : List Char → Option Exponent × List Char
  | [] => (none, [])
  | c :: t =>
    if (c = 'e' ∨ c = 'E') ∧ digits (scanSign t).2 ≠ [] then
      (some ⟨c, (scanSign t).1, digits (scanSign t).2⟩, afterDigits (scanSign t).2)
    else (none, c :: t)

def scan (t : List Char) : Option (Parts × List Char) :=
  let (sign, unsigned) := scanSign t
  let whole := digits unsigned
  let (fraction, rest) := scanFraction (afterDigits unsigned)
  if whole = [] ∧ fraction.getD [] = [] then none
  else
    let (exponent, rest) := scanExponent rest
    some (⟨sign, whole, fraction, exponent⟩, rest)

/-- The whole number at the front of a text. -/
def scanInteger (t : List Char) : Option ℤ :=
  let (sign, unsigned) := scanSign t
  if digits unsigned = [] then none else some (sign.apply (natOf (digits unsigned)))

end Scanner

section Pieces

variable {t rest ds : List Char} {c : Char}

theorem digits_append_afterDigits : digits t ++ afterDigits t = t :=
  List.takeWhile_append_dropWhile

theorem isDigit_of_mem_digits (h : c ∈ digits t) : c.isDigit = true := List.mem_takeWhile_imp h

theorem digits_append (hds : ∀ c ∈ ds, c.isDigit = true)
    (hrest : ∀ c, rest.head? = some c → c.isDigit = false) : digits (ds ++ rest) = ds := by
  have hnil : rest.takeWhile Char.isDigit = [] := by
    cases rest with
    | nil => rfl
    | cons c rest => simp [hrest c rfl]
  rw [digits, List.takeWhile_append_of_pos hds, hnil, List.append_nil]

theorem afterDigits_append (hds : ∀ c ∈ ds, c.isDigit = true)
    (hrest : ∀ c, rest.head? = some c → c.isDigit = false) : afterDigits (ds ++ rest) = rest := by
  have hsame : rest.dropWhile Char.isDigit = rest := by
    cases rest with
    | nil => rfl
    | cons c rest => simp [hrest c rfl]
  rw [afterDigits, List.dropWhile_append_of_pos hds, hsame]

theorem scanSign_append : (scanSign t).1.text ++ (scanSign t).2 = t := by
  cases t with
  | nil => rfl
  | cons c t =>
    rw [scanSign]
    split_ifs with hplus hminus
    · rw [hplus]
      rfl
    · rw [hminus]
      rfl
    · rfl

theorem scanSign_text {sign : Sign} (h : ∀ c, t.head? = some c → c ≠ '+' ∧ c ≠ '-') :
    scanSign (sign.text ++ t) = (sign, t) := by
  cases sign with
  | plus => rfl
  | minus => rfl
  | bare =>
    cases t with
    | nil => rfl
    | cons c t =>
      obtain ⟨hplus, hminus⟩ := h c rfl
      change scanSign (c :: t) = _
      rw [scanSign, if_neg hplus, if_neg hminus]

theorem not_sign_of_isDigit (h : c.isDigit = true) : c ≠ '+' ∧ c ≠ '-' := by
  constructor
  · rintro rfl
    cases h
  · rintro rfl
    cases h

theorem head_of_digits (hds : ∀ c ∈ ds, c.isDigit = true) (hne : ds ≠ [])
    (hhead : (ds ++ rest).head? = some c) : c.isDigit = true := by
  cases ds with
  | nil => exact absurd rfl hne
  | cons d ds => exact Option.some.inj hhead ▸ hds d List.mem_cons_self

theorem scanFraction_append :
    (scanFraction t).1.elim [] ('.' :: ·) ++ (scanFraction t).2 = t := by
  cases t with
  | nil => rfl
  | cons c t =>
    rw [scanFraction]
    split_ifs with hpoint
    · rw [hpoint]
      exact congrArg ('.' :: ·) digits_append_afterDigits
    · rfl

theorem scanExponent_append : (scanExponent t).1.elim [] Exponent.text ++ (scanExponent t).2 = t := by
  cases t with
  | nil => rfl
  | cons c t =>
    rw [scanExponent]
    split_ifs with hexponent
    · have hdigits : (scanSign t).1.text ++ (digits (scanSign t).2 ++ afterDigits (scanSign t).2) =
          t := by
        rw [digits_append_afterDigits, scanSign_append]
      rw [← List.append_assoc] at hdigits
      exact congrArg (c :: ·) hdigits
    · rfl

theorem scanExponent_wellFormed {e : Exponent} (h : (scanExponent t).1 = some e) :
    e.WellFormed := by
  cases t with
  | nil => cases h
  | cons c t =>
    rw [scanExponent] at h
    split_ifs at h with hexponent
    rw [← Option.some.inj h]
    exact ⟨hexponent.1, fun c hc => isDigit_of_mem_digits hc, hexponent.2⟩

theorem scanExponent_text {e : Exponent} (h : e.WellFormed) :
    scanExponent e.text = (some e, []) := by
  have hdigits : digits e.digits = e.digits := by
    have happend := @digits_append [] e.digits h.digits fun c hc => by cases hc
    rwa [List.append_nil] at happend
  have hrest : afterDigits e.digits = [] := by
    have happend := @afterDigits_append [] e.digits h.digits fun c hc => by cases hc
    rwa [List.append_nil] at happend
  have hsign : scanSign (e.sign.text ++ e.digits) = (e.sign, e.digits) := by
    refine scanSign_text fun c hc => not_sign_of_isDigit ?_
    exact head_of_digits h.digits h.digits_ne_nil (by rwa [List.append_nil])
  rw [Exponent.text, scanExponent, hsign, hdigits, if_pos ⟨h.mark, h.digits_ne_nil⟩, hrest]

end Pieces

section Numerals

variable {t rest : List Char} {p : Parts} {q : ℚ}

theorem scanFraction_digits {ds : List Char} (h : (scanFraction t).1 = some ds) :
    ∀ c ∈ ds, c.isDigit = true := by
  cases t with
  | nil => cases h
  | cons c t =>
    rw [scanFraction] at h
    split_ifs at h
    rw [← Option.some.inj h]
    exact fun c hc => isDigit_of_mem_digits hc

theorem scan_sound (h : scan t = some (p, rest)) : p.WellFormed ∧ t = p.text ++ rest := by
  rw [scan] at h
  dsimp only at h
  split_ifs at h with hdigit
  obtain ⟨rfl, rfl⟩ := Prod.mk.inj (Option.some.inj h)
  refine ⟨⟨fun c hc => isDigit_of_mem_digits hc, fun ds hds => scanFraction_digits hds,
    fun e he => scanExponent_wellFormed he, ?_⟩, ?_⟩
  · by_cases hwhole : digits (scanSign t).2 = []
    · cases hfraction : (scanFraction (afterDigits (scanSign t).2)).1 with
      | none => exact absurd ⟨hwhole, by rw [hfraction]; rfl⟩ hdigit
      | some ds => exact .inr ⟨ds, rfl, fun hds => hdigit ⟨hwhole, by rw [hfraction]; exact hds⟩⟩
    · exact .inl hwhole
  · simp only [Parts.text, Parts.fractionText, Parts.exponentText, List.append_assoc,
      scanExponent_append, scanFraction_append, digits_append_afterDigits, scanSign_append]

theorem exponentText_head {c : Char} (h : p.WellFormed) (hc : p.exponentText.head? = some c) :
    c = 'e' ∨ c = 'E' := by
  rw [Parts.exponentText] at hc
  cases hexponent : p.exponent with
  | none =>
    rw [hexponent] at hc
    cases hc
  | some e =>
    rw [hexponent] at hc
    exact Option.some.inj hc ▸ (h.exponent e hexponent).mark

theorem scanExponent_exponentText (h : p.WellFormed) :
    scanExponent p.exponentText = (p.exponent, []) := by
  rw [Parts.exponentText]
  cases hexponent : p.exponent with
  | none => rfl
  | some e => exact scanExponent_text (h.exponent e hexponent)

theorem scanFraction_fractionText (h : p.WellFormed) :
    scanFraction (p.fractionText ++ p.exponentText) = (p.fraction, p.exponentText) := by
  have hhead : ∀ c, p.exponentText.head? = some c → c.isDigit = false ∧ c ≠ '.' := by
    intro c hc
    obtain rfl | rfl := exponentText_head h hc
    · decide
    · decide
  rw [Parts.fractionText]
  cases hfraction : p.fraction with
  | none =>
    cases hexponent : p.exponentText with
    | nil => rfl
    | cons c t =>
      change scanFraction (c :: t) = _
      rw [scanFraction, if_neg (hhead c (by rw [hexponent]; rfl)).2]
  | some ds =>
    have hds := h.fraction ds hfraction
    have hend : ∀ c, p.exponentText.head? = some c → c.isDigit = false := fun c hc => (hhead c hc).1
    change scanFraction ('.' :: (ds ++ p.exponentText)) = _
    rw [scanFraction, if_pos rfl, digits_append hds hend, afterDigits_append hds hend]

theorem fractionText_head {c : Char} (h : p.WellFormed)
    (hc : (p.fractionText ++ p.exponentText).head? = some c) : c.isDigit = false := by
  rw [Parts.fractionText] at hc
  cases hfraction : p.fraction with
  | none =>
    rw [hfraction] at hc
    obtain rfl | rfl := exponentText_head h hc
    · decide
    · decide
  | some ds =>
    rw [hfraction] at hc
    exact Option.some.inj hc ▸ by decide

theorem scanSign_parts (h : p.WellFormed) : scanSign p.text =
    (p.sign, p.whole ++ (p.fractionText ++ p.exponentText)) := by
  refine scanSign_text fun c hc => ?_
  obtain hwhole | ⟨ds, hfraction, -⟩ := h.some_digit
  · exact not_sign_of_isDigit (head_of_digits h.whole hwhole hc)
  · cases hwhole : p.whole with
    | cons d ds' => exact not_sign_of_isDigit (head_of_digits h.whole (by simp [hwhole]) hc)
    | nil =>
      rw [hwhole, Parts.fractionText, hfraction] at hc
      exact Option.some.inj hc ▸ by decide

theorem digits_unsigned (h : p.WellFormed) :
    digits (p.whole ++ (p.fractionText ++ p.exponentText)) = p.whole :=
  digits_append h.whole fun _ => fractionText_head h

theorem scan_text (h : p.WellFormed) : scan p.text = some (p, []) := by
  have hwhole := digits_unsigned h
  have hafter : afterDigits (p.whole ++ (p.fractionText ++ p.exponentText)) =
      p.fractionText ++ p.exponentText :=
    afterDigits_append h.whole fun _ => fractionText_head h
  have hdigit : ¬ (p.whole = [] ∧ p.fraction.getD [] = []) := by
    rintro ⟨hnil, hfraction⟩
    obtain hne | ⟨ds, hds, hne⟩ := h.some_digit
    · exact hne hnil
    · rw [hds] at hfraction
      exact hne hfraction
  rw [scan, scanSign_parts h]
  dsimp only
  rw [hwhole, hafter, scanFraction_fractionText h]
  dsimp only
  rw [if_neg hdigit, scanExponent_exponentText h]

theorem text_head (h : p.WellFormed) :
    ∃ c t, p.text = c :: t ∧ (c = '+' ∨ c = '-' ∨ c = '.' ∨ c.isDigit = true) := by
  rw [Parts.text]
  cases p.sign with
  | plus => exact ⟨'+', _, rfl, .inl rfl⟩
  | minus => exact ⟨'-', _, rfl, .inr (.inl rfl)⟩
  | bare =>
    cases hwhole : p.whole with
    | cons c t => exact ⟨c, _, rfl, .inr (.inr (.inr (h.whole c (by simp [hwhole]))))⟩
    | nil =>
      obtain ⟨ds, hfraction, -⟩ := h.some_digit.resolve_left fun hne => hne hwhole
      rw [Parts.fractionText, hfraction]
      exact ⟨'.', _, rfl, .inr (.inr (.inl rfl))⟩

theorem denotes_iff : Denotes t q ↔ ∃ p, scan t = some (p, []) ∧ p.value = q := by
  constructor
  · rintro ⟨p, hp, rfl, hvalue⟩
    exact ⟨p, scan_text hp, hvalue⟩
  · rintro ⟨p, hscan, hvalue⟩
    obtain ⟨hp, htext⟩ := scan_sound hscan
    exact ⟨p, hp, by rw [htext, List.append_nil], hvalue⟩

theorem scanInteger_text (h : p.WellFormed) :
    scanInteger p.text = if p.whole = [] then none else some p.leading := by
  rw [scanInteger, scanSign_parts h]
  dsimp only
  rw [digits_unsigned h]
  rfl

end Numerals

end Numeral
