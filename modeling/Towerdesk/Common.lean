import Towerdesk.Lib.Outcome
import Mathlib.Data.Rat.Floor

/-!
# What every service shares

Identifiers, instants in milliseconds, the exceptions a service throws with their
messages, the authenticated user with the two guards most operations start with,
and the rounding of a decimal column. `internal` stands for what the exception
filter answers with 500: a database error or a type error.
-/

namespace Towerdesk

abbrev Id := String

abbrev Date := ℤ

inductive HttpException
  | badRequest (message : String)
  | unauthorized (message : String)
  | forbidden (message : String)
  | notFound (message : String)
  | conflict (message : String)
  | internal (message : String)
deriving DecidableEq, Repr

abbrev Result (α : Type) := Except HttpException α

/-- A string that passes a truthiness test: present and not empty. -/
def truthy (s : Option String) : Option String := s.filter (· ≠ "")

theorem truthy_eq_some {s : Option String} {a : String} :
    truthy s = some a ↔ s = some a ∧ a ≠ "" := by
  simp [truthy, Option.filter_eq_some_iff]

structure AuthenticatedUser where
  sub : String
  orgId : Option String
deriving DecidableEq, Repr

def assertOrgScope (user : Option AuthenticatedUser) : Result Id :=
  Outcome.orThrow (truthy (user.bind (·.orgId))) (.forbidden "Org scope required")

def assertUserId (user : Option AuthenticatedUser) : Result Id :=
  Outcome.orThrow (truthy (user.map (·.sub))) (.unauthorized "Unauthorized")

theorem assertOrgScope_ok {user : Option AuthenticatedUser} {orgId : Id}
    (h : assertOrgScope user = .ok orgId) : orgId ≠ "" :=
  (truthy_eq_some.mp (Outcome.orThrow_eq_ok.mp h)).2

/-- A field of a request body: left out, sent as `null`, or given. Optional fields
pass validation in all three cases. -/
inductive Field (α : Type)
  | undefined
  | null
  | value (a : α)
deriving DecidableEq, Repr

namespace Field

variable {α : Type}

def isUndefined : Field α → Bool
  | .undefined => true
  | _ => false

def toOption : Field α → Option α
  | .value a => some a
  | _ => none

end Field

/-- A column that cannot be null keeps its value when the field is left out and refuses `null`. -/
def requiredColumn {α : Type} (field : Field α) (current : α) : Result α :=
  match field with
  | .undefined => .ok current
  | .null => .error (.internal "Argument must not be null")
  | .value a => .ok a

def nullableColumn {α : Type} (field : Field α) (current : Option α) : Option α :=
  match field with
  | .undefined => current
  | .null => none
  | .value a => some a

section Text

/-- The characters `\s` and `trim` treat as white space. -/
def isSpace (c : Char) : Bool :=
  [0x09, 0x0A, 0x0B, 0x0C, 0x0D, 0x20, 0xA0, 0x1680, 0x2028, 0x2029, 0x202F, 0x205F, 0x3000,
    0xFEFF].contains c.toNat || (0x2000 ≤ c.toNat && c.toNat ≤ 0x200A)

def trim (text : List Char) : List Char :=
  ((text.dropWhile isSpace).reverse.dropWhile isSpace).reverse

def trimString (s : String) : String := String.ofList (trim s.toList)

end Text

/-- Rounding to the scale of a `Decimal(_, 2)` column, halves away from zero. -/
def roundCents (q : ℚ) : ℚ :=
  if 0 ≤ q then (⌊q * 100 + 1 / 2⌋ : ℤ) / 100 else (⌈q * 100 - 1 / 2⌉ : ℤ) / 100

/-- A `Decimal(12, 2)` column holds ten digits before the point. -/
def toDecimalColumn (q : ℚ) : Result ℚ :=
  if |roundCents q| < 10 ^ 10 then .ok (roundCents q)
  else .error (.internal "numeric field overflow")

/-- An `Int` column holds 32 bits. -/
def toIntColumn (q : ℚ) : Result ℤ :=
  if q.den = 1 ∧ -2 ^ 31 ≤ q.num ∧ q.num < 2 ^ 31 then .ok q.num
  else .error (.internal "Int cannot represent value")

end Towerdesk
