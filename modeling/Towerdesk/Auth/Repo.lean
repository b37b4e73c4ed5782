import Towerdesk.Auth.Store

/-!
# The authentication repository

Creating reset tokens and resident invites, failing an invite, and the transaction that
redeems a token: a program, because which grants it activates is read on the way. Every
grant it activates gets an audit row and its user a notification.
-/

namespace Towerdesk.Auth

open Delivery (PasswordResetEmailPurpose NotificationInput)
open Program (Code)

abbrev Statements (α : Type) := Code Db DbWrite α

section Tokens

def createPasswordResetToken (userId : Id) (tokenHash : String) (expiresAt : Date)
    (purpose : PasswordResetEmailPurpose) : Statements Unit := do
  Code.perform (.deletePasswordResetTokens fun t => t.userId = userId)
  Code.perform (.passwordResetToken (.create {
    tokenHash
    userId
    purpose
    expiresAt
    usedAt := none }))

/-- The token with the user `include` brings along. -/
def findTokenWithUser (tokenHash : String) (db : Db) : Option (PasswordResetToken × User) := do
  let token ← db.passwordResetTokens.findUnique tokenHash
  let user ← db.users.findUnique token.userId
  return (token, user)

def redeemable (now : Date) (token : PasswordResetToken) (user : User) : Bool :=
  !(token.usedAt.isSome || decide (token.expiresAt ≤ now) || !user.isActive)

def passwordReset (passwordHash : String) : Patch User.key where
  apply u := { u with
    passwordHash
    mustChangePassword := false
    refreshTokenHash := none }
  key_apply _ := rfl

def tokenUsed (now : Date) : Patch PasswordResetToken.tokenHash where
  apply t := { t with usedAt := some now }
  key_apply _ := rfl

end Tokens

section Invites

def markResidentInviteFailed (tokenHash reason : String) (now : Date) : DbWrite :=
  .residentInvite (.updateMany (fun i => i.tokenHash = tokenHash ∧ i.status = .SENT) {
    apply := fun i => { i with
      status := .FAILED
      failedAt := some now
      failureReason := some (.ofList (Delivery.sliceText 1000 reason.toList)) }
    key_apply := fun _ => rfl })

def inviteAccepted (now : Date) : Patch ResidentInvite.tokenHash where
  apply i := { i with
    status := .ACCEPTED
    acceptedAt := some now
    failedAt := none
    failureReason := none }
  key_apply _ := rfl

def acceptResidentInvites (now : Date) (token : PasswordResetToken) : Statements Unit :=
  if token.purpose = .RESIDENT_INVITE then
    Code.perform (.residentInvite (.updateMany
      (fun i => i.tokenHash = token.tokenHash ∧ i.status = .SENT) (inviteAccepted now)))
  else pure ()

end Invites

section Grants

def grantActivated (now : Date) (verificationMethod : Option String) :
    Patch OwnerAccessGrant.key where
  apply g := { g with
    status := .ACTIVE
    acceptedAt := some now
    invitedAt := none
    inviteEmail := none
    disabledAt := none
    disabledByUserId := none
    verificationMethod }
  key_apply _ := rfl

/-- `findMany` of the user's pending grants, each with its owner. -/
def pendingOwnerGrants (token : PasswordResetToken) (db : Db) :
    List (OwnerAccessGrant × Owner) :=
  if token.purpose = .OWNER_INVITE then
    (db.books.grants.table.rows.filter fun g =>
      g.userId = some token.userId ∧ g.status = .PENDING).filterMap fun g =>
        (db.books.owners.findUnique g.ownerId).map fun owner => (g, owner)
  else []

def verificationMethodOf (grant : OwnerAccessGrant) : Option String :=
  some (grant.verificationMethod.getD "OWNER_INVITE")

/-- The row as the update returns it. -/
def updatedGrant (now : Date) (grant : OwnerAccessGrant) : OwnerAccessGrant :=
  (grantActivated now (verificationMethodOf grant)).apply grant

def activatedAudit (now : Date) (grant : OwnerAccessGrant) : OwnerAccessGrantAudit where
  grantId := (updatedGrant now grant).id
  ownerId := (updatedGrant now grant).ownerId
  actorUserId := none
  action := .ACTIVATED
  fromStatus := some .PENDING
  toStatus := .ACTIVE
  userId := (updatedGrant now grant).userId
  inviteEmail := grant.inviteEmail
  verificationMethod := (updatedGrant now grant).verificationMethod

def ownerAccessGranted (recipientUserId : Id) (owner : Owner) (grantId : Id) :
    NotificationInput where
  orgId := owner.orgId
  recipientUserId
  type := .OWNER_ACCESS_GRANTED
  title := "Owner access granted"
  body := some ("You can now access " ++ owner.name ++ ".")
  data := [("kind", .string "owner_access"), ("ownerId", .string owner.id),
    ("grantId", .string grantId), ("status", .string "ACTIVE")]

def activatePending (now : Date) (userId : Id) (pending : OwnerAccessGrant × Owner) :
    Statements Unit := do
  let (grant, owner) := pending
  Code.perform (.ownerAccessGrant (.update grant.id
    (grantActivated now (verificationMethodOf grant))))
  Code.perform (.ownerAccessGrantAudit (activatedAudit now grant))
  Code.perform (.notification (ownerAccessGranted userId owner (updatedGrant now grant).id))

def providerGrantActivated (now : Date) : Patch ServiceProviderAccessGrant.key where
  apply g := { g with
    status := .ACTIVE
    acceptedAt := some now
    invitedAt := none
    inviteEmail := none
    disabledAt := none
    disabledByUserId := none
    verificationMethod := some "PROVIDER_INVITE" }
  key_apply _ := rfl

def activateProviderGrants (now : Date) (token : PasswordResetToken) : Statements Unit :=
  if token.purpose = .PROVIDER_INVITE then
    Code.perform (.serviceProviderAccessGrant (.updateMany
      (fun g => g.userId = some token.userId ∧ g.status = .PENDING)
      (providerGrantActivated now)))
  else pure ()

end Grants

section Redemption

/-- What follows once the token is found good. -/
def redeem (now : Date) (passwordHash : String) (token : PasswordResetToken) :
    Statements Bool := do
  Code.perform (.user (.update token.userId (passwordReset passwordHash)))
  Code.perform (.passwordResetToken (.update token.tokenHash (tokenUsed now)))
  acceptResidentInvites now token
  let pending ← Code.query (pendingOwnerGrants token)
  pending.forM (activatePending now token.userId)
  activateProviderGrants now token
  Code.perform (.deletePasswordResetTokens fun t =>
    t.userId = token.userId ∧ t.tokenHash ≠ token.tokenHash)
  return true

def resetPasswordByToken (now : Date) (tokenHash passwordHash : String) : Statements Bool := do
  match ← Code.query (findTokenWithUser tokenHash) with
  | none => return false
  | some (token, user) =>
    if redeemable now token user then redeem now passwordHash token else return false

end Redemption

end Towerdesk.Auth
