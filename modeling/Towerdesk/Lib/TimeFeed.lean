import Towerdesk.Lib.CursorPages
import Towerdesk.Lib.CursorText
import Mathlib.Data.Prod.Lex

/-!
# Rows newest first

Rows with a time and an identifier are listed in descending order of both and cut into pages.
The cursor of a page is the text of the time and the identifier of its last row, and the next
page starts below the row that its cursor is read back as.
-/

namespace TimeFeed

open IsoDate (TimeValue)

/-- What the listing takes from outside: the order of text in the database, the reading of
malformed UTF-8, and of dates written otherwise than `toISOString` does. -/
structure Runtime (ι : Type*) where
  collate : String ↪ ι
  replaceMalformed : ByteArray → String
  parseOther : String → Option TimeValue

structure Columns (α : Type*) where
  createdAt : α → TimeValue
  id : α → String

structure CursorInfo where
  createdAt : TimeValue
  id : String

/-- The page size asked for, kept between one and the largest there is. -/
def pageLimit (defaultLimit maxLimit : ℤ) (limit : Option ℤ) : ℕ :=
  (min (max (limit.getD defaultLimit) 1) maxLimit).toNat

theorem pageLimit_pos {defaultLimit maxLimit : ℤ} {limit : Option ℤ} (hmax : 0 < maxLimit) :
    0 < pageLimit defaultLimit maxLimit limit := by
  rw [pageLimit]
  omega

section Cursors

variable {ι : Type*} (runtime : Runtime ι)

/-- `new Date(text)`. -/
def dateOfText (text : List Char) : Option TimeValue :=
  (IsoDate.parse text).or (runtime.parseOther (.ofList text))

def decodeCursor (cursor : String) : Option CursorInfo :=
  match CursorText.parts runtime.replaceMalformed cursor with
  | [createdAtRaw, id] =>
    if createdAtRaw.isEmpty || id.isEmpty then none
    else (dateOfText runtime createdAtRaw).map (⟨·, .ofList id⟩)
  | _ => none

theorem toISOString_ne_nil (time : TimeValue) : IsoDate.toISOString time ≠ [] := by
  intro htext
  have hparse := IsoDate.parse_toISOString time
  have hnone : IsoDate.parse [] = none := by decide
  rw [htext, hnone] at hparse
  cases hparse

theorem decodeCursor_encode {createdAt : TimeValue} {id : String} (hid : id ≠ "")
    (hbar : '|' ∉ id.toList) :
    decodeCursor runtime (CursorText.encode createdAt id) = some ⟨createdAt, id⟩ := by
  have hid' : id.toList.isEmpty = false := by simpa using hid
  have htime : (IsoDate.toISOString createdAt).isEmpty = false := by
    simpa using toISOString_ne_nil createdAt
  have hdate : dateOfText runtime (IsoDate.toISOString createdAt) = some createdAt := by
    rw [dateOfText, IsoDate.parse_toISOString, Option.some_or]
  rw [decodeCursor, CursorText.parts_encode hbar]
  simp only [hid', htime, Bool.or_self, Bool.false_eq_true, if_false, hdate, Option.map_some,
    String.ofList_toList]

end Cursors

section Keys

variable {α ι : Type*} (runtime : Runtime ι) (columns : Columns α)

/-- `orderBy: [{ createdAt: 'desc' }, { id: 'desc' }]` is descending in this. -/
def orderKey (createdAt : TimeValue) (id : String) : TimeValue ×ₗ ι :=
  toLex (createdAt, runtime.collate id)

def rowKey (a : α) : TimeValue ×ₗ ι := orderKey runtime (columns.createdAt a) (columns.id a)

def cursorKey (cursor : CursorInfo) : TimeValue ×ₗ ι := orderKey runtime cursor.createdAt cursor.id

def encodeCursor (a : α) : String := CursorText.encode (columns.createdAt a) (columns.id a)

variable {runtime columns}

theorem rowKey_inj {a b : α} : rowKey runtime columns a = rowKey runtime columns b ↔
    columns.createdAt a = columns.createdAt b ∧ columns.id a = columns.id b := by
  rw [rowKey, rowKey, orderKey, orderKey, toLex_inj, Prod.mk.injEq,
    runtime.collate.injective.eq_iff]

theorem nodup_rowKey {rows : List α} (hnodup : (rows.map columns.id).Nodup) :
    (rows.map (rowKey runtime columns)).Nodup := by
  refine List.Nodup.of_map (fun key => (ofLex key).2) ?_
  have hcollate : (rows.map columns.id).map runtime.collate =
      (rows.map (rowKey runtime columns)).map (fun key => (ofLex key).2) := by
    rw [List.map_map, List.map_map]
    rfl
  rw [← hcollate]
  exact hnodup.map runtime.collate.injective

end Keys

section Query

variable {α ι : Type*} [LinearOrder ι] (runtime : Runtime ι) (columns : Columns α)

def beforeCursor (cursor : Option CursorInfo) (a : α) : Bool :=
  match cursor with
  | none => true
  | some cursor => columns.createdAt a < cursor.createdAt ∨
      columns.createdAt a = cursor.createdAt ∧
        runtime.collate (columns.id a) < runtime.collate cursor.id

/-- `findMany` with a condition and a cursor, newest first. -/
def findMany (rows : List α) (p : α → Bool) (take : ℕ) (cursor : Option CursorInfo) : List α :=
  (Keyset.sorted (rowKey runtime columns)
    (rows.filter fun a => p a && beforeCursor runtime columns cursor a)).take take

/-- A page is cut from one row more than it has room for. -/
def cut (limit : ℕ) (items : List α) : List α × Option String :=
  let hasMore := limit < items.length
  let sliced := if hasMore then items.take limit else items
  (sliced, if hasMore then sliced.getLast?.map (encodeCursor columns) else none)

/-- The rows that pass, in the order of the listing. -/
def matching (rows : List α) (p : α → Bool) : List α :=
  Keyset.sorted (rowKey runtime columns) (rows.filter p)

variable {runtime columns} {rows : List α} {p : α → Bool} {limit : ℕ}

theorem mem_matching {a : α} : a ∈ matching runtime columns rows p ↔ a ∈ rows ∧ p a = true := by
  rw [matching, Keyset.mem_sorted, List.mem_filter]

theorem pairwise_matching (hnodup : (rows.map columns.id).Nodup) :
    (matching runtime columns rows p).Pairwise fun a b =>
      rowKey runtime columns b < rowKey runtime columns a :=
  Keyset.pairwise_sorted (nodup_rowKey (hnodup.sublist (List.filter_sublist.map _)))

theorem findMany_eq (hnodup : (rows.map columns.id).Nodup) (take : ℕ)
    (cursor : Option CursorInfo) :
    findMany runtime columns rows p take cursor =
      (Keyset.below (rowKey runtime columns) (matching runtime columns rows p)
        (cursor.map (cursorKey runtime))).take take := by
  have hkeys : (rows.map (rowKey runtime columns)).Nodup := nodup_rowKey hnodup
  have hbefore : ∀ a, beforeCursor runtime columns cursor a =
      (cursor.map (cursorKey runtime)).all fun k => rowKey runtime columns a < k := by
    intro a
    cases cursor with
    | none => rfl
    | some cursor =>
      simp only [beforeCursor, rowKey, cursorKey, orderKey, Prod.Lex.toLex_lt_toLex,
        Option.map_some, Option.all_some]
  simp only [findMany, hbefore]
  rw [Keyset.sorted_below hkeys, matching]

theorem cut_findMany (hnodup : (rows.map columns.id).Nodup) (cursor : Option CursorInfo) :
    cut columns limit (findMany runtime columns rows p (limit + 1) cursor) =
      CursorPages.page (rowKey runtime columns) limit (matching runtime columns rows p) id
        (encodeCursor columns) (cursor.map (cursorKey runtime)) := by
  have hwindow : findMany runtime columns rows p (limit + 1) cursor =
      Keyset.window (rowKey runtime columns) limit (matching runtime columns rows p)
        (cursor.map (cursorKey runtime)) := findMany_eq hnodup (limit + 1) cursor
  rw [← CursorPages.page_of_window _ _ _ id (encodeCursor columns) _ hwindow, List.map_id]
  rfl

end Query

section Views

variable {α β : Type*} (columns : Columns α) (columns' : Columns β) {limit : ℕ}

theorem cut_map (view : α → β) (hcreatedAt : ∀ a, columns'.createdAt (view a) = columns.createdAt a)
    (hid : ∀ a, columns'.id (view a) = columns.id a) (items : List α) :
    cut columns' limit (items.map view) =
      ((cut columns limit items).1.map view, (cut columns limit items).2) := by
  have hencode : encodeCursor columns' ∘ view = encodeCursor columns := by
    funext a
    simp only [Function.comp_apply, encodeCursor, hcreatedAt, hid]
  simp only [cut, List.length_map]
  split_ifs with hmore
  · rw [← List.map_take, List.getLast?_map, Option.map_map, hencode]
  · rfl

end Views

end TimeFeed
