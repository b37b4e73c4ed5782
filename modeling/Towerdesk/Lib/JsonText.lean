import Mathlib.Data.List.Basic
import Mathlib.Data.String.Basic

/-!
# Objects of strings as JSON text

The text of an object whose values are strings, with the escapes a serializer writes: the
short ones, and a code of four digits for the other control characters. Reading accepts
what is written for the names it is given.
-/

namespace JsonText

def quoteMark : Char := Char.ofNat 34

def backslash : Char := Char.ofNat 92

/-- The characters that are escaped by one letter. -/
def shortEscapes : List (Char × Char) :=
  [(quoteMark, quoteMark), (backslash, backslash), (Char.ofNat 8, 'b'), (Char.ofNat 9, 't'),
    (Char.ofNat 10, 'n'), (Char.ofNat 12, 'f'), (Char.ofNat 13, 'r')]

def letterOf (c : Char) : Option Char := (shortEscapes.find? (·.1 = c)).map (·.2)

def ofLetter (l : Char) : Option Char := (shortEscapes.find? (·.2 = l)).map (·.1)

def hexDigit (n : ℕ) : Char := if n < 10 then Char.ofNat (n + 48) else Char.ofNat (n + 87)

def hexValue (c : Char) : Option ℕ :=
  if 48 ≤ c.toNat ∧ c.toNat ≤ 57 then some (c.toNat - 48)
  else if 97 ≤ c.toNat ∧ c.toNat ≤ 102 then some (c.toNat - 87)
  else none

def escape (c : Char) : List Char :=
  match letterOf c with
  | some l => [backslash, l]
  | none =>
    if c.toNat < 32 then
      [backslash, 'u', '0', '0', hexDigit (c.toNat / 16), hexDigit (c.toNat % 16)]
    else [c]

def quote (s : String) : List Char := quoteMark :: (s.toList.flatMap escape ++ [quoteMark])

def member (field : String × String) : List Char := quote field.1 ++ ':' :: quote field.2

def members : List (String × String) → List Char
  | [] => []
  | [field] => member field
  | field :: fields => member field ++ ',' :: members fields

def stringify (fields : List (String × String)) : String :=
  .ofList ('{' :: (members fields ++ ['}']))

/-- Where a reader stands in a string: at a character, behind a backslash, or in a code with
so many digits to come. -/
inductive Mode
  | plain
  | escaped
  | code (left value : ℕ)

def push (c : Char) (read : List Char × List Char) : List Char × List Char := (c :: read.1, read.2)

/-- Reads up to the closing mark; returns the characters and what is behind it. -/
def scan : Mode → List Char → Option (List Char × List Char)
  | _, [] => none
  | .plain, c :: cs =>
    if c = quoteMark then some ([], cs)
    else if c = backslash then scan .escaped cs
    else if c.toNat < 32 then none
    else (scan .plain cs).map (push c)
  | .escaped, c :: cs =>
    if c = 'u' then scan (.code 4 0) cs
    else (ofLetter c).bind fun d => (scan .plain cs).map (push d)
  | .code left value, c :: cs =>
    (hexValue c).bind fun digit =>
      if 1 < left then scan (.code (left - 1) (16 * value + digit)) cs
      else if 16 * value + digit < 32 then
        (scan .plain cs).map (push (Char.ofNat (16 * value + digit)))
      else none

theorem scan_backslash (cs : List Char) : scan .plain (backslash :: cs) = scan .escaped cs := by
  rw [scan, if_neg (by decide), if_pos rfl]

def strip (text cs : List Char) : Option (List Char) :=
  if text.isPrefixOf cs then some (cs.drop text.length) else none

def readMember (name : String) (cs : List Char) : Option (String × List Char) :=
  (strip (quote name ++ [':', quoteMark]) cs).bind fun rest =>
    (scan .plain rest).map fun read => (.ofList read.1, read.2)

def readMembers : List String → List Char → Option (List String × List Char)
  | [], cs => some ([], cs)
  | [name], cs => (readMember name cs).map fun read => ([read.1], read.2)
  | name :: names, cs =>
    (readMember name cs).bind fun read =>
      (strip [','] read.2).bind fun rest =>
        (readMembers names rest).map fun more => (read.1 :: more.1, more.2)

/-- The values of an object with these names. -/
def parse (names : List String) (text : String) : Option (List String) :=
  (strip ['{'] text.toList).bind fun rest =>
    (readMembers names rest).bind fun read => if read.2 = ['}'] then some read.1 else none

section Escapes

theorem letterOf_spec : ∀ p ∈ shortEscapes, ofLetter p.2 = some p.1 ∧ p.2 ≠ 'u' := by
  decide

theorem hexValue_hexDigit : ∀ n < 16, hexValue (hexDigit n) = some n := by
  decide

theorem letterOf_eq_some {c l : Char} (h : letterOf c = some l) : ofLetter l = some c ∧ l ≠ 'u' := by
  obtain ⟨p, hp, rfl⟩ := Option.map_eq_some_iff.mp h
  have hc : p.1 = c := by simpa using List.find?_some hp
  exact hc ▸ letterOf_spec p (List.mem_of_find?_eq_some hp)

theorem letterOf_eq_none {c : Char} (h : letterOf c = none) : c ≠ quoteMark ∧ c ≠ backslash := by
  have hnone : ∀ p ∈ shortEscapes, p.1 ≠ c := by
    simpa [letterOf] using h
  exact ⟨fun hc => hnone (quoteMark, quoteMark) (by decide) hc.symm,
    fun hc => hnone (backslash, backslash) (by decide) hc.symm⟩

theorem scan_digit {left value n : ℕ} (hn : n < 16) (hleft : 1 < left) (cs : List Char) :
    scan (.code left value) (hexDigit n :: cs) = scan (.code (left - 1) (16 * value + n)) cs := by
  rw [scan, hexValue_hexDigit n hn, Option.bind_some, if_pos hleft]

theorem scan_last_digit {value n : ℕ} (hn : n < 16) (hvalue : 16 * value + n < 32)
    (cs : List Char) : scan (.code 1 value) (hexDigit n :: cs) =
      (scan .plain cs).map (push (Char.ofNat (16 * value + n))) := by
  rw [scan, hexValue_hexDigit n hn, Option.bind_some, if_neg (lt_irrefl 1), if_pos hvalue]

theorem scan_escape (c : Char) (cs : List Char) :
    scan .plain (escape c ++ cs) = (scan .plain cs).map (push c) := by
  unfold escape
  cases hletter : letterOf c with
  | some l =>
    obtain ⟨hback, hcode⟩ := letterOf_eq_some hletter
    change scan .plain (backslash :: l :: cs) = _
    rw [scan_backslash, scan, if_neg hcode, hback, Option.bind_some]
  | none =>
    obtain ⟨hquote, hbackslash⟩ := letterOf_eq_none hletter
    dsimp only
    split_ifs with hcontrol
    · have hfirst : c.toNat / 16 < 16 := by omega
      have hsecond : c.toNat % 16 < 16 := Nat.mod_lt _ (by omega)
      have hvalue : 16 * (c.toNat / 16) + c.toNat % 16 = c.toNat := Nat.div_add_mod _ _
      change scan .plain (backslash :: 'u' :: hexDigit 0 :: hexDigit 0 :: _ :: _ :: cs) = _
      rw [scan_backslash, scan, if_pos rfl, scan_digit (by omega) (by omega),
        scan_digit (by omega) (by omega), scan_digit hfirst (by omega)]
      simp only [Nat.mul_zero, Nat.zero_add, Nat.reduceSub]
      rw [scan_last_digit hsecond (by omega), hvalue, Char.ofNat_toNat]
    · change scan .plain (c :: cs) = _
      rw [scan, if_neg hquote, if_neg hbackslash, if_neg hcontrol]

theorem scan_flatMap_escape (cs rest : List Char) :
    scan .plain (cs.flatMap escape ++ quoteMark :: rest) = some (cs, rest) := by
  induction cs with
  | nil => rfl
  | cons c cs ih =>
    rw [List.flatMap_cons, List.append_assoc, scan_escape, ih]
    rfl

end Escapes

section Objects

theorem strip_append (text cs : List Char) : strip text (text ++ cs) = some cs := by
  rw [strip, if_pos (by simp), List.drop_left]

theorem readMember_append (field : String × String) (rest : List Char) :
    readMember field.1 (member field ++ rest) = some (field.2, rest) := by
  have hsplit : member field ++ rest = (quote field.1 ++ [':', quoteMark]) ++
      (field.2.toList.flatMap escape ++ quoteMark :: rest) := by
    simp [member, quote]
  rw [readMember, hsplit, strip_append, Option.bind_some, scan_flatMap_escape, Option.map_some,
    String.ofList_toList]

theorem readMembers_append (fields : List (String × String)) (rest : List Char) :
    readMembers (fields.map Prod.fst) (members fields ++ rest) =
      some (fields.map Prod.snd, rest) := by
  induction fields with
  | nil => rfl
  | cons field fields ih =>
    cases fields with
    | nil =>
      change (readMember field.1 (member field ++ rest)).map _ = _
      rw [readMember_append]
      rfl
    | cons next fields =>
      change (readMember field.1 (member field ++ ',' :: members (next :: fields) ++ rest)).bind _ = _
      rw [List.append_assoc, readMember_append, Option.bind_some]
      have hcomma : strip [','] (',' :: members (next :: fields) ++ rest) =
          some (members (next :: fields) ++ rest) := strip_append [','] _
      change (strip [','] (',' :: members (next :: fields) ++ rest)).bind _ = _
      rw [hcomma, Option.bind_some]
      rw [ih]
      rfl

theorem parse_stringify (fields : List (String × String)) :
    parse (fields.map Prod.fst) (stringify fields) = some (fields.map Prod.snd) := by
  have hopen : strip ['{'] ('{' :: (members fields ++ ['}'])) = some (members fields ++ ['}']) :=
    strip_append ['{'] _
  rw [parse, stringify, String.toList_ofList, hopen, Option.bind_some, readMembers_append,
    Option.bind_some, if_pos rfl]

end Objects

end JsonText
