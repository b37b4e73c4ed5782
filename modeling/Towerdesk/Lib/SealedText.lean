import Towerdesk.Lib.Base64
import Mathlib.Data.String.Basic

/-!
# Sealed texts

A text is encrypted under an authenticated cipher and kept as three parts in base 64 with dots
between them: the nonce, the tag and the encrypted bytes. A reader that insists on three parts
that are not empty gets every text back but the empty one.
-/

namespace SealedText

/-- An authenticated cipher under a fixed key. Encryption gives a tag and as many bytes as it
was given. -/
structure Cipher where
  tag (nonce plain : List UInt8) : List UInt8
  encrypt (nonce plain : List UInt8) : List UInt8
  decrypt (nonce tag encrypted : List UInt8) : Option (List UInt8)
  tag_ne_nil : ∀ nonce plain, tag nonce plain ≠ []
  length_encrypt : ∀ nonce plain, (encrypt nonce plain).length = plain.length
  decrypt_encrypt : ∀ nonce plain,
    decrypt nonce (tag nonce plain) (encrypt nonce plain) = some plain

inductive OpenError
  | incomplete
  | inauthentic
deriving DecidableEq, Repr

section Format

variable (cipher : Cipher)

def bytesOf (text : String) : List UInt8 := text.toUTF8.data.toList

def join (nonce tag encrypted : List UInt8) : List Char :=
  Base64.encode nonce ++ '.' :: (Base64.encode tag ++ '.' :: Base64.encode encrypted)

def sealText (nonce : List UInt8) (text : String) : String :=
  .ofList (join nonce (cipher.tag nonce (bytesOf text)) (cipher.encrypt nonce (bytesOf text)))

/-- A part that is missing is as good as empty; parts beyond the third are not looked at. -/
def openText (replaceMalformed : ByteArray → String) (sealedText : String) :
    Except OpenError String :=
  let parts := sealedText.toList.splitOn '.'
  let nonce := parts.getD 0 []
  let tag := parts.getD 1 []
  let encrypted := parts.getD 2 []
  if nonce = [] ∨ tag = [] ∨ encrypted = [] then .error .incomplete
  else
    match cipher.decrypt (Base64.decode nonce) (Base64.decode tag) (Base64.decode encrypted) with
    | none => .error .inauthentic
    | some plain =>
      let bytes : ByteArray := ⟨plain.toArray⟩
      .ok ((String.fromUTF8? bytes).getD (replaceMalformed bytes))

end Format

section Reading

variable {cipher : Cipher} {replaceMalformed : ByteArray → String} {nonce tag encrypted : List UInt8}

theorem dot_not_mem_encode {bytes : List UInt8} : '.' ∉ Base64.encode bytes := by
  intro h
  obtain hvalue | hpad := Base64.isSome_value_of_mem_encode h
  · revert hvalue
    decide
  · revert hpad
    decide

theorem splitOn_join : (join nonce tag encrypted).splitOn '.' =
    [Base64.encode nonce, Base64.encode tag, Base64.encode encrypted] := by
  rw [join, List.splitOn_append_cons_self_of_not_mem dot_not_mem_encode,
    List.splitOn_append_cons_self_of_not_mem dot_not_mem_encode,
    List.splitOn_eq_singleton dot_not_mem_encode]

theorem bytesOf_eq_nil {text : String} : bytesOf text = [] ↔ text = "" := by
  refine ⟨fun h => ?_, fun h => by rw [h]; rfl⟩
  have hbytes : text.toUTF8 = "".toUTF8 := ByteArray.ext (Array.toList_inj.mp h)
  exact String.toByteArray_inj.mp hbytes

theorem fromUTF8_bytesOf (text : String) :
    String.fromUTF8? ⟨(bytesOf text).toArray⟩ = some text := by
  rw [bytesOf, Array.toArray_toList]
  exact dif_pos (String.isValidUTF8 _)

theorem encrypt_eq_nil {plain : List UInt8} : cipher.encrypt nonce plain = [] ↔ plain = [] := by
  rw [← List.length_eq_zero_iff, cipher.length_encrypt, List.length_eq_zero_iff]

theorem openText_sealText {text : String} (hnonce : nonce ≠ []) (htext : text ≠ "") :
    openText cipher replaceMalformed (sealText cipher nonce text) = .ok text := by
  have hparts : ¬ (Base64.encode nonce = [] ∨
      Base64.encode (cipher.tag nonce (bytesOf text)) = [] ∨
        Base64.encode (cipher.encrypt nonce (bytesOf text)) = []) := by
    rw [Base64.encode_eq_nil, Base64.encode_eq_nil, Base64.encode_eq_nil, encrypt_eq_nil,
      bytesOf_eq_nil]
    simp [hnonce, htext, cipher.tag_ne_nil]
  simp only [openText, sealText, String.toList_ofList, splitOn_join, List.getD_cons_zero,
    List.getD_cons_succ]
  rw [if_neg hparts]
  simp only [Base64.decode_encode, cipher.decrypt_encrypt, fromUTF8_bytesOf, Option.getD_some]

theorem openText_sealText_empty :
    openText cipher replaceMalformed (sealText cipher nonce "") = .error .incomplete := by
  have hempty : Base64.encode (cipher.encrypt nonce (bytesOf "")) = [] :=
    Base64.encode_eq_nil.mpr (encrypt_eq_nil.mpr (bytesOf_eq_nil.mpr rfl))
  simp only [openText, sealText, String.toList_ofList, splitOn_join, List.getD_cons_zero,
    List.getD_cons_succ]
  rw [if_pos (.inr (.inr hempty))]

end Reading

end SealedText
