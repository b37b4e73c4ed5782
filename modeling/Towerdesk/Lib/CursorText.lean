import Towerdesk.Lib.Base64
import Towerdesk.Lib.IsoDate
import Mathlib.Data.String.Basic

/-!
# Cursors as text

The text of a cursor is a time and an identifier with a bar between them, as the bytes of
their UTF-8 in base 64. Read back and split at its bars it has the two parts it was made of,
as long as the identifier has no bar of its own.
-/

namespace CursorText

open IsoDate (TimeValue)

def encode (time : TimeValue) (id : String) : String :=
  let text := String.ofList (IsoDate.toISOString time ++ '|' :: id.toList)
  .ofList (Base64.encode text.toUTF8.data.toList)

/-- Malformed UTF-8 is read with replacement characters. -/
def decodedText (replaceMalformed : ByteArray → String) (cursor : String) : String :=
  let bytes : ByteArray := ⟨(Base64.decode cursor.toList).toArray⟩
  (String.fromUTF8? bytes).getD (replaceMalformed bytes)

def parts (replaceMalformed : ByteArray → String) (cursor : String) : List (List Char) :=
  (decodedText replaceMalformed cursor).toList.splitOn '|'

variable {replaceMalformed : ByteArray → String} {time : TimeValue} {id : String}

/-- The bytes of a text in base 64. -/
def ofText (text : String) : String := .ofList (Base64.encode text.toUTF8.data.toList)

theorem fromUTF8_ofText (text : String) :
    String.fromUTF8? ⟨(Base64.decode (ofText text).toList).toArray⟩ = some text := by
  rw [ofText, String.toList_ofList, Base64.decode_encode, Array.toArray_toList]
  exact dif_pos (String.isValidUTF8 _)

theorem decodedText_ofText (text : String) : decodedText replaceMalformed (ofText text) = text := by
  rw [decodedText, fromUTF8_ofText, Option.getD_some]

theorem ofText_ne_empty {text : String} (h : text ≠ "") : ofText text ≠ "" := by
  intro hempty
  have hread := fromUTF8_ofText text
  rw [hempty] at hread
  exact h (Option.some.inj hread).symm

theorem bar_not_mem_toISOString : '|' ∉ IsoDate.toISOString time := by
  intro hmem
  have hle := IsoDate.toNat_le_of_mem time '|' hmem
  exact absurd hle (by decide)

theorem parts_encode (hbar : '|' ∉ id.toList) :
    parts replaceMalformed (encode time id) = [IsoDate.toISOString time, id.toList] := by
  have htext : decodedText replaceMalformed (encode time id) =
      .ofList (IsoDate.toISOString time ++ '|' :: id.toList) := decodedText_ofText _
  rw [parts, htext, String.toList_ofList,
    List.splitOn_append_cons_self_of_not_mem bar_not_mem_toISOString,
    List.splitOn_eq_singleton hbar]

theorem encode_ne_empty : encode time id ≠ "" := by
  refine ofText_ne_empty fun hempty => ?_
  have hlist := congrArg String.toList hempty
  simp at hlist

end CursorText
