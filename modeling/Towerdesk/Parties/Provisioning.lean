import Towerdesk.Directory
import Towerdesk.Lib.Constraint
import Towerdesk.Lib.Transaction
import Towerdesk.Parties.Identifiers

/-!
# Owners and their parties

An organisation creates an owner for a party that a token names, that has a given identifier, or
that is new. A party that is found by its identifier is shared by the organisations.
-/

namespace Towerdesk.Parties

open Transaction (read)

inductive PartyType
  | INDIVIDUAL | COMPANY
deriving DecidableEq, Repr

inductive PartyStatus
  | ACTIVE | ARCHIVED
deriving DecidableEq, Repr

structure Party where
  id : Id
  type : PartyType
  displayNameEn : String
  displayNameAr : Option String
  primaryEmail : Option String
  primaryPhone : Option String
  status : PartyStatus
deriving DecidableEq

structure PartyIdentifier extends IdentifierContext where
  id : Id
  partyId : Id
  identifierType : PartyIdentifierType
  valueEncrypted : String
  lookupHmac : String
  isPrimary : Bool
  normalizationVersion : ℤ
  deletedAt : Option Date
deriving DecidableEq

inductive LookupResult
  | MATCH_FOUND | NO_MATCH
deriving DecidableEq, Repr

structure OwnerRegistryLookupAudit where
  id : Id
  actorUserId : Id
  actorOrgId : Id
  identifierType : PartyIdentifierType
  lookupHmac : String
  resultStatus : LookupResult
  matchedPartyId : Option Id
deriving DecidableEq

structure OwnerData where
  name : String
  email : Option String
  phone : Option String
  address : Option String
  displayNameOverride : Option String
  contactEmailOverride : Option String
  contactPhoneOverride : Option String
  notes : Option String
  isActive : Bool
deriving DecidableEq

structure Owner extends OwnerData where
  id : Id
  orgId : Id
  partyId : Option Id
deriving DecidableEq

/-- `PartyIdentifier_exact_lookup_unique`. -/
def liveLookup (i : PartyIdentifier) : Option (PartyIdentifierType × String × String × String) :=
  if i.deletedAt = none then
    some (i.identifierType, i.countryCode.getD "", i.issuingAuthority.getD "", i.lookupHmac)
  else none

/-- `Owner_orgId_partyId_key`. -/
def orgParty (o : Owner) : Option (Id × Id) := o.partyId.map fun partyId => (o.orgId, partyId)

inductive PartyConstraint
  | PartyIdentifier_exact_lookup_unique
  | Owner_orgId_partyId_key
deriving DecidableEq, Repr

def identifierCheck (t : Table PartyIdentifier.id) : Option PartyConstraint :=
  if t.UniqueOn liveLookup then none else some .PartyIdentifier_exact_lookup_unique

def ownerCheck (t : Table Owner.id) : Option PartyConstraint :=
  if t.UniqueOn orgParty then none else some .Owner_orgId_partyId_key

abbrev IdentifierTable := Constrained PartyIdentifier.id identifierCheck

abbrev OwnerTable := Constrained Owner.id ownerCheck

structure Db where
  orgIds : List Id
  users : Table User.id
  parties : Table Party.id
  identifiers : IdentifierTable
  audits : Table OwnerRegistryLookupAudit.id
  owners : OwnerTable

/-- The payload of a resolution token that carries a valid signature. -/
structure ResolutionTokenPayload where
  sub : Id
  orgId : Id
  partyId : Id
  purpose : String
deriving DecidableEq

/-- The nonces are twelve random bytes. -/
structure Nonce where
  bytes : List UInt8
  length : bytes.length = 12

/-- What a call draws and the verdict of the token library at its time. -/
structure Env where
  partyId : Id
  identifierId : Id
  auditId : Id
  ownerId : Id
  lookupNonce : Nonce
  storedNonce : Nonce
  verifyToken : String → Option ResolutionTokenPayload

structure OwnerOverridesDto where
  displayNameOverride : Option String
  contactEmailOverride : Field String
  contactPhoneOverride : Option String
  notes : Option String
deriving DecidableEq

structure CreateOwnerDto where
  name : String
  partyType : Option PartyType
  displayNameEn : Option String
  displayNameAr : Option String
  email : Field String
  phone : Option String
  address : Option String
  resolutionToken : Option String
  identifier : Option IdentifierInput
  ownerOverrides : Option OwnerOverridesDto
deriving DecidableEq

structure PartyInput where
  type : PartyType
  displayNameEn : String
  displayNameAr : Option String
  primaryEmail : Option String
  primaryPhone : Option String
deriving DecidableEq

structure CreateOwnerInput where
  actorUserId : Id
  orgId : Id
  dto : CreateOwnerDto
deriving DecidableEq

abbrev Service := EStateM HttpException Db

def foreignKeyViolated : HttpException := .internal "Foreign key constraint violated"

def raise : Table.WriteError PartyConstraint → HttpException
  | .duplicateKey => .internal "Unique constraint violated"
  | .recordNotFound => .internal "Record not found"
  | .violates _ => .internal "Unique constraint violated"

namespace Db

variable (db : Db)

def insertParty (party : Party) : Result Db := do
  let parties ← Outcome.orThrow (db.parties.insert party) (raise .duplicateKey)
  return { db with parties }

def insertIdentifier (identifier : PartyIdentifier) : Result Db := do
  Outcome.throwIf (db.parties.findUnique identifier.partyId).isNone foreignKeyViolated
  let identifiers ← (db.identifiers.write (.create identifier)).mapError raise
  return { db with identifiers }

def insertAudit (audit : OwnerRegistryLookupAudit) : Result Db := do
  Outcome.throwIf ((db.users.findUnique audit.actorUserId).isNone ∨ audit.actorOrgId ∉ db.orgIds)
    foreignKeyViolated
  let audits ← Outcome.orThrow (db.audits.insert audit) (raise .duplicateKey)
  return { db with audits }

def writeOwner (w : Table.Write Owner.id) : Result Db := do
  let owners ← (db.owners.write w).mapError raise
  return { db with owners }

def insertOwner (owner : Owner) : Result Db := do
  Outcome.throwIf (owner.orgId ∉ db.orgIds ∨
    owner.partyId.any fun id => (db.parties.findUnique id).isNone) foreignKeyViolated
  db.writeOwner (.create owner)

end Db

/-- A statement, or a transaction of several, that takes effect as a whole. -/
def statement (w : Db → Result Db) : Service Unit := fun db =>
  match w db with
  | .ok db' => .ok () db'
  | .error e => .error e db

section PartyResolutionService

variable (platform : Platform) (env : Env)

def assertStrongIdentifier (identifierType : PartyIdentifierType) : Result Unit :=
  Outcome.throwIf (identifierType = .OTHER)
    (.badRequest "Only strong identifier types are allowed for resolution")

def findIdentifier (db : Db) (identifierType : PartyIdentifierType)
    (prepared : StoredIdentifierData) : Option PartyIdentifier :=
  db.identifiers.table.findFirst fun i => i.identifierType = identifierType ∧
    i.toIdentifierContext = prepared.toIdentifierContext ∧
      i.lookupHmac = prepared.lookupHmac ∧ i.deletedAt = none

def findPartyByIdentifierExact (actorUserId actorOrgId : Id) (input : IdentifierInput) :
    Service (Option Party) := do
  read fun _ => assertStrongIdentifier input.identifierType
  let prepared ← read fun _ => createStoredIdentifierData platform env.lookupNonce.bytes
    input.identifierType input.identifierValue input.toIdentifierContext
  let found ← read fun db => .ok ((findIdentifier db input.identifierType prepared).map fun i =>
    (i.partyId, db.parties.findUnique i.partyId))
  statement fun db => db.insertAudit {
    id := env.auditId
    actorUserId
    actorOrgId
    identifierType := input.identifierType
    lookupHmac := prepared.lookupHmac
    resultStatus := if found.isSome then .MATCH_FOUND else .NO_MATCH
    matchedPartyId := found.map (·.1) }
  return found.bind (·.2)

def newParty (input : PartyInput) : Party where
  id := env.partyId
  type := input.type
  displayNameEn := input.displayNameEn
  displayNameAr := input.displayNameAr
  primaryEmail := input.primaryEmail
  primaryPhone := input.primaryPhone
  status := .ACTIVE

def createParty (input : PartyInput) (db : Db) : Result Db := db.insertParty (newParty env input)

def newIdentifier (partyId : Id) (input : IdentifierInput) (prepared : StoredIdentifierData) :
    PartyIdentifier where
  id := env.identifierId
  partyId
  identifierType := input.identifierType
  countryCode := prepared.countryCode
  issuingAuthority := prepared.issuingAuthority
  valueEncrypted := prepared.valueEncrypted
  lookupHmac := prepared.lookupHmac
  isPrimary := true
  normalizationVersion := prepared.normalizationVersion
  deletedAt := none

def createIdentifier (partyId : Id) (input : IdentifierInput) (db : Db) : Result Db := do
  let prepared ← createStoredIdentifierData platform env.storedNonce.bytes input.identifierType
    input.identifierValue input.toIdentifierContext
  db.insertIdentifier (newIdentifier env partyId input prepared)

end PartyResolutionService

section OwnerProvisioningService

variable (platform : Platform) (env : Env)

def trimmed (text : Option String) : Option String := truthy (text.map trimString)

/-- `normalizeEmail` of a field that may be left out; it cannot trim `null`. -/
def normalizedEmail : Field String → Result (Option String)
  | .undefined => .ok none
  | .null => .error (.internal "Cannot read properties of null (reading 'trim')")
  | .value email => .ok (some (platform.toLowerCase (trimString email)))

def verify (token actorUserId orgId : String) : Result Id := do
  let payload ← Outcome.orThrow (env.verifyToken token)
    (.unauthorized "Invalid owner resolution token")
  Outcome.throwIf (payload.purpose ≠ "owner-party-resolution" ∨ payload.sub ≠ actorUserId ∨
      payload.orgId ≠ orgId)
    (.badRequest "Owner resolution token does not match actor scope")
  return payload.partyId

/-- The party that the identifier has, or a new one that gets it. -/
def partyOfIdentifier (actorUserId orgId : Id) (party : PartyInput) (identifier : IdentifierInput) :
    Service Id := do
  match ← findPartyByIdentifierExact platform env actorUserId orgId identifier with
  | some party => return party.id
  | none =>
    statement fun db => createParty env party db >>= createIdentifier platform env env.partyId
      identifier
    return env.partyId

def partyOf (input : CreateOwnerInput) (party : PartyInput) : Service Id :=
  match truthy input.dto.resolutionToken with
  | some token => read fun _ => verify env token input.actorUserId input.orgId
  | none =>
    match input.dto.identifier with
    | some identifier =>
      partyOfIdentifier platform env input.actorUserId input.orgId party identifier
    | none => do
      statement (createParty env party)
      return env.partyId

def ownerData (dto : CreateOwnerDto) (primaryEmail primaryPhone : Option String) :
    Result OwnerData := do
  let contactEmailOverride ← normalizedEmail platform
    ((dto.ownerOverrides.map (·.contactEmailOverride)).getD .undefined)
  return {
    name := trimString dto.name
    email := primaryEmail
    phone := primaryPhone
    address := trimmed dto.address
    displayNameOverride := trimmed (dto.ownerOverrides.bind (·.displayNameOverride))
    contactEmailOverride
    contactPhoneOverride := trimmed (dto.ownerOverrides.bind (·.contactPhoneOverride))
    notes := trimmed (dto.ownerOverrides.bind (·.notes))
    isActive := true }

def OwnerData.patch (data : OwnerData) : Patch Owner.id where
  apply o := { o with toOwnerData := data }
  key_apply _ := rfl

def saveOwner (orgId partyId : Id) (data : OwnerData) : Option Owner → Service Owner
  | some existing => do
    statement fun db => db.writeOwner (.update existing.id data.patch)
    return { existing with toOwnerData := data }
  | none => do
    let owner : Owner := { data with id := env.ownerId, orgId, partyId := some partyId }
    statement fun db => db.insertOwner owner
    return owner

def displayNameOf (dto : CreateOwnerDto) : String :=
  (trimmed dto.displayNameEn).getD (trimString dto.name)

def createOrReuseOwner (input : CreateOwnerInput) : Service Owner := do
  let displayNameEn := displayNameOf input.dto
  read fun _ => Outcome.throwIf (displayNameEn = "") (.badRequest "Owner name is required")
  let primaryEmail ← read fun _ => normalizedEmail platform input.dto.email
  let primaryPhone := trimmed input.dto.phone
  let partyId ← partyOf platform env input {
    type := input.dto.partyType.getD .INDIVIDUAL
    displayNameEn
    displayNameAr := input.dto.displayNameAr
    primaryEmail
    primaryPhone }
  let existingOwner ← read fun db => .ok (db.owners.table.findFirst fun o =>
    o.orgId = input.orgId ∧ o.partyId = some partyId)
  let data ← read fun _ => ownerData platform input.dto primaryEmail primaryPhone
  saveOwner env input.orgId partyId data existingOwner

end OwnerProvisioningService

end Towerdesk.Parties
