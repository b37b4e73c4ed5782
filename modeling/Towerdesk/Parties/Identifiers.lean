import Towerdesk.Common
import Towerdesk.Lib.SealedText

/-!
# Identifiers of parties

A strong identifier is normalized, looked up under a keyed hash of what identifies it and kept
encrypted. Hash and cipher stand under the keys of the environment.
-/

namespace Towerdesk.Parties

open SealedText (Cipher sealText openText)

inductive PartyIdentifierType
  | EMIRATES_ID | PASSPORT | TRADE_LICENSE | VAT_TRN | OTHER
deriving DecidableEq, Repr

/-- The characters that `/[\s-]/` matches. -/
def isSeparator (c : Char) : Bool := isSpace c || c = '-'

/-- What does not depend on the call. The hash is taken to be injective; upper case changes no
white space and no dash and turns nothing else into them. -/
structure Platform where
  hmac : String → String
  hmac_injective : Function.Injective hmac
  cipher : Cipher
  replaceMalformed : ByteArray → String
  toLowerCase : String → String
  upperCase : Char → List Char
  upperCase_separator : ∀ c, isSeparator c = true → upperCase c = [c]
  upperCase_solid : ∀ c, isSeparator c = false →
    upperCase c ≠ [] ∧ ∀ d ∈ upperCase c, isSeparator d = false

structure IdentifierContext where
  countryCode : Option String
  issuingAuthority : Option String
deriving DecidableEq

structure IdentifierInput extends IdentifierContext where
  identifierType : PartyIdentifierType
  identifierValue : String
deriving DecidableEq

structure StoredIdentifierData extends IdentifierContext where
  normalizedValue : String
  lookupHmac : String
  valueEncrypted : String
  normalizationVersion : ℤ
deriving DecidableEq

def typeText : PartyIdentifierType → String
  | .EMIRATES_ID => "EMIRATES_ID"
  | .PASSPORT => "PASSPORT"
  | .TRADE_LICENSE => "TRADE_LICENSE"
  | .VAT_TRN => "VAT_TRN"
  | .OTHER => "OTHER"

section PartyIdentifierService

variable (platform : Platform)

def toUpperCase (text : List Char) : List Char := text.flatMap platform.upperCase

def normalizeIdentifier (type : PartyIdentifierType) (rawValue : String) : Result String :=
  let value := trim rawValue.toList
  if value = [] then .error (.badRequest "Identifier value is required")
  else
    match type with
    | .EMIRATES_ID | .TRADE_LICENSE | .VAT_TRN =>
      .ok (.ofList ((toUpperCase platform value).filter (!isSeparator ·)))
    | .PASSPORT => .ok (.ofList ((toUpperCase platform value).filter (!isSpace ·)))
    | .OTHER => .ok (.ofList (toUpperCase platform value))

def normalizeText (text : Option String) : Option String :=
  truthy (text.map fun s => .ofList (toUpperCase platform (trim s.toList)))

def normalizeContext (input : IdentifierContext) : IdentifierContext where
  countryCode := normalizeText platform input.countryCode
  issuingAuthority := normalizeText platform input.issuingAuthority

def payload (type : PartyIdentifierType) (context : IdentifierContext) (normalizedValue : String) :
    String :=
  "v1|" ++ typeText type ++ "|" ++ context.countryCode.getD "" ++ "|" ++
    context.issuingAuthority.getD "" ++ "|" ++ normalizedValue

def buildLookupHmac (type : PartyIdentifierType) (normalizedValue : String)
    (input : IdentifierContext) : String :=
  platform.hmac (payload type (normalizeContext platform input) normalizedValue)

def encryptValue (iv : List UInt8) (value : String) : String := sealText platform.cipher iv value

def decryptValue (cipherText : String) : Result String :=
  match openText platform.cipher platform.replaceMalformed cipherText with
  | .ok value => .ok value
  | .error .incomplete => .error (.badRequest "Invalid encrypted identifier")
  | .error .inauthentic =>
    .error (.internal "Unsupported state or unable to authenticate data")

def createStoredIdentifierData (iv : List UInt8) (type : PartyIdentifierType) (rawValue : String)
    (input : IdentifierContext) : Result StoredIdentifierData := do
  let normalizedValue ← normalizeIdentifier platform type rawValue
  return {
    toIdentifierContext := normalizeContext platform input
    normalizedValue
    lookupHmac := buildLookupHmac platform type normalizedValue input
    valueEncrypted := encryptValue platform iv normalizedValue
    normalizationVersion := 1 }

end PartyIdentifierService

section Normalization

variable {platform : Platform} {type : PartyIdentifierType} {text : List Char} {rawValue : String}

/-- Of the types whose dashes are taken out. -/
def DropsDashes (type : PartyIdentifierType) : Prop :=
  type = .EMIRATES_ID ∨ type = .TRADE_LICENSE ∨ type = .VAT_TRN

instance (type : PartyIdentifierType) : Decidable (DropsDashes type) :=
  inferInstanceAs (Decidable (_ ∨ _))

/-- A value that is more than separators, where these are taken out. -/
def HasSubstance (type : PartyIdentifierType) (rawValue : String) : Prop :=
  DropsDashes type → ∃ c ∈ rawValue.toList, isSeparator c = false

theorem mem_trim_of_solid {c : Char} (hc : isSpace c = false) : c ∈ trim text ↔ c ∈ text := by
  have hdrop : ∀ l : List Char, c ∈ l.dropWhile isSpace ↔ c ∈ l := by
    intro l
    refine ⟨fun h => (List.dropWhile_sublist _).mem h, fun h => ?_⟩
    induction l with
    | nil => exact h
    | cons d l ih =>
      by_cases hd : isSpace d = true
      · rw [List.dropWhile_cons_of_pos hd]
        refine ih ((List.mem_cons.mp h).resolve_left ?_)
        rintro rfl
        rw [hc] at hd
        cases hd
      · rwa [List.dropWhile_cons_of_neg hd]
  rw [trim, List.mem_reverse, hdrop, List.mem_reverse, hdrop]

theorem exists_solid_of_trim (h : trim text ≠ []) : ∃ c ∈ trim text, isSpace c = false := by
  have hne : (text.dropWhile isSpace).reverse.dropWhile isSpace ≠ [] := fun hnil => h (by
    rw [trim, hnil]
    rfl)
  refine ⟨_, List.mem_reverse.mpr (List.head_mem hne), ?_⟩
  exact List.head_dropWhile_not isSpace hne

theorem isSpace_of_not_separator {c : Char} (h : isSeparator c = false) : isSpace c = false :=
  (Bool.or_eq_false_iff.mp h).1

theorem exists_upper_solid_iff :
    (∃ d ∈ toUpperCase platform text, isSeparator d = false) ↔
      ∃ c ∈ text, isSeparator c = false := by
  simp only [toUpperCase, List.mem_flatMap]
  constructor
  · rintro ⟨d, ⟨c, hc, hd⟩, hsolid⟩
    refine ⟨c, hc, Bool.eq_false_iff.mpr fun hseparator => ?_⟩
    rw [platform.upperCase_separator c hseparator, List.mem_singleton] at hd
    rw [hd, hseparator] at hsolid
    cases hsolid
  · rintro ⟨c, hc, hsolid⟩
    obtain ⟨hne, hall⟩ := platform.upperCase_solid c hsolid
    obtain ⟨d, hd⟩ := List.exists_mem_of_ne_nil _ hne
    exact ⟨d, ⟨c, hc, hd⟩, hall d hd⟩

theorem exists_upper_of_solid {c : Char} (hc : c ∈ text) (hsolid : isSpace c = false) :
    ∃ d ∈ toUpperCase platform text, isSpace d = false := by
  by_cases hseparator : isSeparator c = true
  · refine ⟨c, List.mem_flatMap.mpr ⟨c, hc, ?_⟩, hsolid⟩
    rw [platform.upperCase_separator c hseparator]
    exact List.mem_singleton_self c
  · obtain ⟨d, hd, hsolid⟩ := exists_upper_solid_iff.mpr ⟨c, hc, Bool.eq_false_iff.mpr hseparator⟩
    exact ⟨d, hd, isSpace_of_not_separator hsolid⟩

theorem ofList_filter_ne_empty {p : Char → Bool} :
    String.ofList (text.filter p) ≠ "" ↔ ∃ c ∈ text, p c = true := by
  have hempty : String.ofList (text.filter p) = "" ↔ text.filter p = [] :=
    String.ofList_eq_empty_iff
  rw [ne_eq, hempty, List.filter_eq_nil_iff]
  push Not
  rfl

theorem normalized_ne_empty_iff {value : String} (hstrong : type ≠ .OTHER)
    (h : normalizeIdentifier platform type rawValue = .ok value) :
    value ≠ "" ↔ HasSubstance type rawValue := by
  have hsubstance : (∃ c ∈ toUpperCase platform (trim rawValue.toList), (!isSeparator c) = true) ↔
      ∃ c ∈ rawValue.toList, isSeparator c = false := by
    simp only [Bool.not_eq_true', exists_upper_solid_iff]
    refine exists_congr fun c => and_congr_left fun hc => ?_
    exact mem_trim_of_solid (isSpace_of_not_separator hc)
  unfold normalizeIdentifier at h
  by_cases htrim : trim rawValue.toList = []
  · simp [htrim] at h
  rw [if_neg htrim] at h
  obtain ⟨c, hc, hsolid⟩ := exists_solid_of_trim htrim
  cases type with
  | EMIRATES_ID =>
    rw [← Except.ok.inj h, ofList_filter_ne_empty, hsubstance]
    exact ⟨fun h _ => h, fun h => h (.inl rfl)⟩
  | TRADE_LICENSE =>
    rw [← Except.ok.inj h, ofList_filter_ne_empty, hsubstance]
    exact ⟨fun h _ => h, fun h => h (.inr (.inl rfl))⟩
  | VAT_TRN =>
    rw [← Except.ok.inj h, ofList_filter_ne_empty, hsubstance]
    exact ⟨fun h _ => h, fun h => h (.inr (.inr rfl))⟩
  | PASSPORT =>
    rw [← Except.ok.inj h]
    refine iff_of_true (ofList_filter_ne_empty.mpr ?_) fun h => nomatch h
    obtain ⟨d, hd, hsolid⟩ := exists_upper_of_solid hc hsolid
    exact ⟨d, hd, by rw [hsolid]; rfl⟩
  | OTHER => exact absurd rfl hstrong

end Normalization

section Encryption

variable {platform : Platform} {iv : List UInt8} {value : String}

theorem payload_injective {type : PartyIdentifierType} {context : IdentifierContext} :
    Function.Injective (payload type context) := by
  intro v w h
  exact String.append_right_inj _ |>.mp h

theorem decryptValue_encryptValue_iff (hiv : iv ≠ []) :
    decryptValue platform (encryptValue platform iv value) = .ok value ↔ value ≠ "" := by
  constructor
  · rintro h rfl
    rw [decryptValue, encryptValue, SealedText.openText_sealText_empty] at h
    cases h
  · intro h
    rw [decryptValue, encryptValue, SealedText.openText_sealText hiv h]

end Encryption

end Towerdesk.Parties
