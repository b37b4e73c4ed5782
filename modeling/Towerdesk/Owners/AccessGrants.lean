import Towerdesk.Auth.Service

/-!
# Grants of owner access

An organisation gives a user access to what an owner sees: by an invitation, by linking a
user or by activating a grant that is pending, and takes it back. Each change of a grant is
one write, followed by another one for its audit row.
-/

namespace Towerdesk.Owners

open Auth (Db DbWrite Env Service OwnerAccessGrantAudit OwnerAccessGrantAuditAction perform
  transaction normalizeEmail findByEmailInsensitive requestPasswordReset)
open Delivery (NotificationType)
open Program (Code)
open Transaction (read)

section Lookups

variable (db : Db)

def assertOwnerInOrg (orgId ownerId : Id) : Result Owner :=
  Outcome.orThrow (db.books.owners.findFirst fun o => o.id = ownerId ∧ o.orgId = orgId)
    (.notFound "Owner not found")

def assertOwnerActive (owner : Owner) : Result Unit :=
  Outcome.throwIf (!owner.isActive) (.conflict "Inactive owners cannot receive access grants")

def assertPasswordSetupComplete (user : Auth.User) : Result Unit :=
  Outcome.throwIf user.mustChangePassword
    (.conflict "User must complete password setup before owner access can be activated")

def assertManualVerificationMethod (verificationMethod : Option String) (fallback : String) :
    Result String := do
  let value := (truthy (verificationMethod.map trimString)).getD fallback
  Outcome.throwIf (value = "EMAIL_MATCH" ∨ value = "OWNER_INVITE" ∨ value = "PROVIDER_INVITE")
    (.badRequest "Reserved verification method cannot be supplied manually")
  return value

def assertOwnerHasNoActiveGrant (ownerId : Id) : Result Unit :=
  Outcome.throwIf
    (db.books.grants.table.findFirst fun g => g.ownerId = ownerId ∧ g.status = .ACTIVE).isSome
    (.conflict "Owner already has an active representative; disable it first")

def assertNoOpenGrantForPair (userId : Id) (ownerId : Id) (inviteEmail : Option String)
    (excludeGrantId : Option Id) : Result Unit :=
  Outcome.throwIf
    (db.books.grants.table.findFirst fun g =>
      g.ownerId = ownerId ∧ truthy excludeGrantId ≠ some g.id ∧
        (g.status = .PENDING ∨ g.status = .ACTIVE) ∧
          (((truthy (some userId)).isSome ∧ g.userId = some userId) ∨
            ((truthy inviteEmail).isSome ∧ g.inviteEmail = inviteEmail))).isSome
    (.conflict "An open owner access grant already exists for this user or invite email")

def assertActiveUser (userId : Id) : Result Auth.User := do
  let user ← Outcome.orThrow (db.users.findUnique userId)
    (.badRequest "User not found or inactive")
  Outcome.throwIf (!user.isActive) (.badRequest "User not found or inactive")
  return user

def findGrant (ownerId grantId : Id) : Result Auth.OwnerAccessGrant :=
  Outcome.orThrow
    (db.books.grants.table.findFirst fun g => g.id = grantId ∧ g.ownerId = ownerId)
    (.notFound "Owner access grant not found")

end Lookups

section Records

def createAudit (row : OwnerAccessGrantAudit) : Service Unit :=
  perform (.ownerAccessGrantAudit row)

/-- What is published and pushed afterwards cannot fail the call. -/
def createForUsers (orgId : Id) (userIds : List Id) (type : NotificationType)
    (title body : String) (data : Delivery.JsonObject) : Service Unit :=
  let uniqueUserIds := userIds.eraseDups.filter (· ≠ "")
  transaction (uniqueUserIds.forM fun recipientUserId => Code.perform (.notification {
    orgId
    recipientUserId
    type
    title
    body := some body
    data }))

def accessData (owner : Owner) (grantId : Id) (status : String) : Delivery.JsonObject :=
  [("kind", .string "owner_access"), ("ownerId", .string owner.id),
    ("grantId", .string grantId), ("status", .string status)]

def notifyGranted (owner : Owner) (userId grantId : Id) : Service Unit :=
  createForUsers owner.orgId [userId] .OWNER_ACCESS_GRANTED "Owner access granted"
    ("You can now access " ++ owner.name ++ ".") (accessData owner grantId "ACTIVE")

def notifyDisabled (owner : Owner) (previousUserId : Option Id) (grantId : Id) : Service Unit :=
  match truthy previousUserId with
  | some userId =>
    createForUsers owner.orgId [userId] .OWNER_ACCESS_DISABLED "Owner access disabled"
      (owner.name ++ " is no longer available in your portfolio.")
      (accessData owner grantId "DISABLED")
  | none => pure ()

end Records

section Creation

variable (env : Env)

def activeGrant (actorUserId : Id) (owner : Owner) (userId : Id) (verificationMethod : String) :
    Auth.OwnerAccessGrant where
  id := env.ids.grant
  userId := some userId
  ownerId := owner.id
  status := .ACTIVE
  inviteEmail := none
  invitedAt := none
  acceptedAt := some env.now
  grantedByUserId := some actorUserId
  disabledAt := none
  disabledByUserId := none
  verificationMethod := some verificationMethod

def pendingGrant (actorUserId ownerId userId : Id) (inviteEmail : String) :
    Auth.OwnerAccessGrant where
  id := env.ids.grant
  userId := some userId
  ownerId
  status := .PENDING
  inviteEmail := some inviteEmail
  invitedAt := some env.now
  acceptedAt := none
  grantedByUserId := some actorUserId
  disabledAt := none
  disabledByUserId := none
  verificationMethod := none

def createActiveGrant (actorUserId : Id) (owner : Owner) (userId : Id)
    (verificationMethod : String) (action : OwnerAccessGrantAuditAction) :
    Service Auth.OwnerAccessGrant := do
  let grant := activeGrant env actorUserId owner userId verificationMethod
  perform (.ownerAccessGrant (.create grant))
  createAudit {
    grantId := grant.id
    ownerId := owner.id
    actorUserId := some actorUserId
    action
    fromStatus := none
    toStatus := .ACTIVE
    userId := grant.userId
    inviteEmail := grant.inviteEmail
    verificationMethod := grant.verificationMethod }
  notifyGranted owner userId grant.id
  return grant

def createPendingEmailGrant (actorUserId ownerId userId : Id) (inviteEmail : String) :
    Service Auth.OwnerAccessGrant := do
  let grant := pendingGrant env actorUserId ownerId userId inviteEmail
  perform (.ownerAccessGrant (.create grant))
  createAudit {
    grantId := grant.id
    ownerId
    actorUserId := some actorUserId
    action := .INVITED
    fromStatus := none
    toStatus := .PENDING
    userId := grant.userId
    inviteEmail := grant.inviteEmail
    verificationMethod := grant.verificationMethod }
  return grant

def createOwnerPortalUser (email ownerName : String) : Service Id := do
  perform (.user (.create {
    id := env.ids.user
    email
    name := some ownerName
    phone := none
    orgId := none
    isActive := true
    passwordHash := env.hashPassword env.temporaryPassword
    refreshTokenHash := none
    mustChangePassword := true }))
  return env.ids.user

end Creation

section Operations

variable (env : Env)

/-- A grant by invitation and the email that goes with it. -/
def inviteByEmail (actorUserId : Id) (owner : Owner) (userId : Id) (inviteEmail : String) :
    Service Auth.OwnerAccessGrant := do
  let grant ← createPendingEmailGrant env actorUserId owner.id userId inviteEmail
  requestPasswordReset env inviteEmail (some .OWNER_INVITE) (some actorUserId)
  return grant

def createPendingInvite (actorUserId orgId ownerId : Id) (email : String) :
    Service Auth.OwnerAccessGrant := do
  let owner ← read fun db => assertOwnerInOrg db orgId ownerId
  read fun _ => assertOwnerActive owner
  read fun db => assertOwnerHasNoActiveGrant db owner.id
  let inviteEmail := normalizeEmail env email
  let user ← read fun db => .ok (findByEmailInsensitive env inviteEmail db)
  match user with
  | some user =>
    read fun _ => Outcome.throwIf (!user.isActive) (.badRequest "User not found or inactive")
    read fun db => assertNoOpenGrantForPair db user.id owner.id (some inviteEmail) none
    if user.mustChangePassword then
      inviteByEmail env actorUserId owner user.id inviteEmail
    else createActiveGrant env actorUserId owner user.id "EMAIL_MATCH" .LINKED
  | none =>
    let userId ← createOwnerPortalUser env inviteEmail owner.name
    read fun db => assertNoOpenGrantForPair db userId owner.id (some inviteEmail) none
    inviteByEmail env actorUserId owner userId inviteEmail

/-- The source writes out here what `createActiveGrant` does. -/
def linkExistingUser (actorUserId orgId ownerId userId : Id) : Service Auth.OwnerAccessGrant := do
  let owner ← read fun db => assertOwnerInOrg db orgId ownerId
  read fun _ => assertOwnerActive owner
  read fun db => assertOwnerHasNoActiveGrant db owner.id
  read fun db => assertNoOpenGrantForPair db userId owner.id none none
  let user ← read fun db => assertActiveUser db userId
  read fun _ => assertPasswordSetupComplete user
  createActiveGrant env actorUserId owner user.id "ADMIN_LINK" .LINKED

def grantActivatedBy (actorUserId userId : Id) (verificationMethod : String) :
    Patch Auth.OwnerAccessGrant.key where
  apply g := { g with
    userId := some userId
    status := .ACTIVE
    acceptedAt := some env.now
    invitedAt := none
    inviteEmail := none
    disabledAt := none
    disabledByUserId := none
    verificationMethod := some verificationMethod
    grantedByUserId := some actorUserId }
  key_apply _ := rfl

def activatePendingGrant (actorUserId orgId ownerId grantId userId : Id)
    (verificationMethod : Option String) : Service Auth.OwnerAccessGrant := do
  let owner ← read fun db => assertOwnerInOrg db orgId ownerId
  read fun _ => assertOwnerActive owner
  read fun db => assertOwnerHasNoActiveGrant db owner.id
  let grant ← read fun db => findGrant db ownerId grantId
  read fun _ => Outcome.throwIf (grant.status ≠ .PENDING)
    (.conflict "Only pending owner access grants can be activated")
  let user ← read fun db => assertActiveUser db userId
  read fun _ => assertPasswordSetupComplete user
  let method ← read fun _ => assertManualVerificationMethod verificationMethod "ADMIN_LINK"
  read fun db => assertNoOpenGrantForPair db user.id owner.id none (some grant.id)
  let patch := grantActivatedBy env actorUserId user.id method
  let updated := patch.apply grant
  perform (.ownerAccessGrant (.update grant.id patch))
  createAudit {
    grantId := updated.id
    ownerId := owner.id
    actorUserId := some actorUserId
    action := .ACTIVATED
    fromStatus := some .PENDING
    toStatus := .ACTIVE
    userId := updated.userId
    inviteEmail := updated.inviteEmail
    verificationMethod := updated.verificationMethod }
  notifyGranted owner user.id updated.id
  return updated

def grantDisabled (actorUserId : Id) (verificationMethod : Option String) :
    Patch Auth.OwnerAccessGrant.key where
  apply g := { g with
    status := .DISABLED
    disabledAt := some env.now
    disabledByUserId := some actorUserId
    verificationMethod }
  key_apply _ := rfl

def disableGrant (actorUserId orgId ownerId grantId : Id) (verificationMethod : Option String) :
    Service Auth.OwnerAccessGrant := do
  let owner ← read fun db => assertOwnerInOrg db orgId ownerId
  let grant ← read fun db => findGrant db ownerId grantId
  read fun _ => Outcome.throwIf (grant.status = .DISABLED)
    (.conflict "Owner access grant is already disabled")
  let nextVerificationMethod := verificationMethod <|> grant.verificationMethod
  let patch := grantDisabled env actorUserId nextVerificationMethod
  let updated := patch.apply grant
  perform (.ownerAccessGrant (.update grant.id patch))
  createAudit {
    grantId := updated.id
    ownerId := owner.id
    actorUserId := some actorUserId
    action := .DISABLED
    fromStatus := some grant.status
    toStatus := .DISABLED
    userId := grant.userId
    inviteEmail := grant.inviteEmail
    verificationMethod := nextVerificationMethod }
  notifyDisabled owner grant.userId updated.id
  return updated

end Operations

section Resending

variable (env : Env)

def resendActiveSetupInvite (grant : Auth.OwnerAccessGrant) (actorUserId : Option Id) :
    Service Auth.OwnerAccessGrant := do
  let userId ← read fun _ => Outcome.orThrow (truthy grant.userId)
    (.conflict "Only linked owner access grants can receive setup recovery emails")
  let user ← read fun db => Outcome.orThrow ((db.users.findUnique userId).filter (·.isActive))
    (.conflict "Cannot resend setup email for an inactive or missing user")
  read fun _ => Outcome.throwIf (!user.mustChangePassword)
    (.conflict "Only pending owner access grants can be resent")
  createAudit {
    grantId := grant.id
    ownerId := grant.ownerId
    actorUserId
    action := .RESENT
    fromStatus := some .ACTIVE
    toStatus := .ACTIVE
    userId := grant.userId
    inviteEmail := some user.email
    verificationMethod := grant.verificationMethod }
  requestPasswordReset env user.email (some .OWNER_INVITE) actorUserId
  return grant

def grantInvitedAgain : Patch Auth.OwnerAccessGrant.key where
  apply g := { g with invitedAt := some env.now }
  key_apply _ := rfl

/-- A resend of a grant that is not active. -/
def resendPendingInvite (grant : Auth.OwnerAccessGrant) (actorUserId : Option Id) :
    Service Auth.OwnerAccessGrant := do
  read fun _ => Outcome.throwIf (grant.status ≠ .PENDING)
    (.conflict "Only pending owner access grants can be resent")
  let inviteEmail ← read fun _ => Outcome.orThrow
    ((truthy grant.userId).bind fun _ => truthy grant.inviteEmail)
    (.conflict "Only email-based pending owner access grants can be resent")
  let updated := (grantInvitedAgain env).apply grant
  perform (.ownerAccessGrant (.update grant.id (grantInvitedAgain env)))
  createAudit {
    grantId := updated.id
    ownerId := updated.ownerId
    actorUserId := none
    action := .RESENT
    fromStatus := some .PENDING
    toStatus := .PENDING
    userId := updated.userId
    inviteEmail := updated.inviteEmail
    verificationMethod := updated.verificationMethod }
  requestPasswordReset env inviteEmail (some .OWNER_INVITE) actorUserId
  return updated

def resendInvite (actorUserId : Option Id) (orgId ownerId grantId : Id) :
    Service Auth.OwnerAccessGrant := do
  let _ ← read fun db => assertOwnerInOrg db orgId ownerId
  let grant ← read fun db => findGrant db ownerId grantId
  if grant.status = .ACTIVE then resendActiveSetupInvite env grant actorUserId
  else resendPendingInvite env grant actorUserId

end Resending

section Owners

structure UpdateOwnerDto where
  name : Field String
  isActive : Field Bool

def ownerUpdated (name : String) (isActive : Bool) : Patch Owner.id where
  apply o := { o with name, isActive }
  key_apply _ := rfl

def findInOrg (orgId ownerId : Id) (db : Db) : Result Owner :=
  Outcome.orThrow ((db.books.owners.findUnique ownerId).filter (·.orgId = orgId))
    (.notFound "Owner not found")

def updateOwner (user : Option AuthenticatedUser) (ownerId : Id) (dto : UpdateOwnerDto) :
    Service Owner := do
  let orgId ← read fun _ => assertOrgScope user
  let existing ← read (findInOrg orgId ownerId)
  let name ← read fun _ => requiredColumn dto.name existing.name
  let isActive ← read fun _ => requiredColumn dto.isActive existing.isActive
  perform (.owner (.update ownerId (ownerUpdated name isActive)))
  read (findInOrg orgId ownerId)

end Owners

end Towerdesk.Owners
