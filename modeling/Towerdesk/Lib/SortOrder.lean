import Towerdesk.Lib.CursorPages
import Mathlib.Order.Basic

/-!
# Ascending and descending

Rows are listed by a key in either direction. In the key of a direction both are descending,
so what is known of descending lists holds of ascending ones.
-/

inductive SortOrder
  | asc
  | desc
deriving DecidableEq, Repr

namespace SortOrder

variable {α κ : Type*} {order : SortOrder}

/-- The keys of a direction: the last in the listing is the least. -/
def Key (order : SortOrder) (κ : Type*) : Type _ :=
  match order with
  | .asc => κᵒᵈ
  | .desc => κ

instance [LinearOrder κ] : LinearOrder (order.Key κ) :=
  match order with
  | .asc => inferInstanceAs (LinearOrder κᵒᵈ)
  | .desc => inferInstanceAs (LinearOrder κ)

def key (order : SortOrder) (k : κ) : order.Key κ :=
  match order with
  | .asc => OrderDual.toDual k
  | .desc => k

theorem key_inj {a b : κ} : order.key a = order.key b ↔ a = b := by
  cases order <;> rfl

theorem nodup_key {key : α → κ} {rows : List α} (h : (rows.map key).Nodup) :
    (rows.map fun a => order.key (key a)).Nodup := by
  have hmap : (rows.map key).map order.key = rows.map fun a => order.key (key a) := List.map_map
  rw [← hmap]
  exact h.map fun _ _ => key_inj.mp

section Order

variable [LinearOrder κ]

/-- The first key is listed behind the second. -/
def Behind (order : SortOrder) (a b : κ) : Prop :=
  match order with
  | .asc => b < a
  | .desc => a < b

instance {a b : κ} : Decidable (order.Behind a b) :=
  match order with
  | .asc => inferInstanceAs (Decidable (b < a))
  | .desc => inferInstanceAs (Decidable (a < b))

theorem key_lt {a b : κ} : order.key a < order.key b ↔ order.Behind a b := by
  cases order <;> rfl

theorem key_le {a b : κ} : order.key a ≤ order.key b ↔ ¬ order.Behind b a := by
  rw [← key_lt, not_lt]

/-- `orderBy` a key in a direction. -/
def sort (order : SortOrder) (key : α → κ) (rows : List α) : List α :=
  Keyset.sorted (fun a => order.key (key a)) rows

/-- `Array.prototype.sort` with a comparing function. -/
def sortBy (compare : α → α → ℤ) (rows : List α) : List α :=
  rows.insertionSort fun a b => compare a b ≤ 0

theorem sortBy_eq {compare : α → α → ℤ} {key : α → κ} (rows : List α)
    (h : ∀ a b, compare a b ≤ 0 ↔ key b ≤ key a) : sortBy compare rows = Keyset.sorted key rows := by
  have hrel : (fun a b => compare a b ≤ 0) = fun a b => key b ≤ key a :=
    funext₂ fun a b => propext (h a b)
  unfold sortBy Keyset.sorted
  congr!

end Order

end SortOrder
