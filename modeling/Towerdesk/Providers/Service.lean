import Towerdesk.Auth.Service
import Towerdesk.Lib.Script
import Mathlib.Data.List.Dedup

/-!
# Service providers

Organisations invite the administrator of a provider, send the invitation again and disable
the grant; the administrator sees to the provider's profile and staff. Each call of the
repository is a step of its own, and so is the redemption of a token.
-/

namespace Towerdesk.Providers

open Auth (Env normalizeEmail findByEmailInsensitive)
open Script (query atomic throwIf)

structure ServiceProvider extends Towerdesk.ServiceProvider where
  serviceCategory : Option String
  contactName : Option String
  contactEmail : Option String
  contactPhone : Option String
  notes : Option String
deriving DecidableEq

def ServiceProvider.key (p : ServiceProvider) : Id := p.id

abbrev MembershipTable := Table ServiceProviderUser.key

/-- A membership refers to its user. -/
structure Db where
  accounts : Auth.Db
  providers : Table ServiceProvider.key
  memberships : MembershipTable
  member_user : ∀ m ∈ memberships, ∃ u ∈ accounts.users, u.key = m.userId

abbrev Call := Script Db HttpException

abbrev Statement := EStateM HttpException Db

def foreignKeyViolated : HttpException := .internal "Foreign key constraint violated"

/-- A statement or a transaction on the tables of the accounts. -/
def onAccounts {α : Type} (w : Auth.Service α) : Statement α := fun db =>
  match w db.accounts with
  | .error e _ => .error e db
  | .ok a accounts =>
    if h : ∀ m ∈ db.memberships, ∃ u ∈ accounts.users, u.key = m.userId then
      .ok a { db with accounts, member_user := h }
    else .error foreignKeyViolated db

section ServiceProvidersRepo

/-- The provider is found whatever the organisation; that only limits the buildings shown. -/
def findByIdForOrg (db : Db) (providerId _orgId : Id) : Option ServiceProvider :=
  db.providers.findUnique providerId

def countOpenAccessGrants (db : Db) (providerId : Id) : ℕ :=
  (db.accounts.serviceProviderAccessGrants.rows.filter fun g =>
    g.serviceProviderId = providerId ∧ (g.status = .PENDING ∨ g.status = .ACTIVE)).length

def findAccessGrant (db : Db) (providerId grantId : Id) : Option Auth.ServiceProviderAccessGrant :=
  db.accounts.serviceProviderAccessGrants.findFirst fun g =>
    g.id = grantId ∧ g.serviceProviderId = providerId

/-- An email is one user's at most. -/
def createStandaloneUser (user : Auth.User) : Statement Auth.User := fun db =>
  if (db.accounts.users.findFirst fun u => u.email = user.email).isSome then
    .error (.internal "Unique constraint violated") db
  else onAccounts ((fun _ => user) <$> Auth.perform (.user (.create user))) db

def memberPatch (role : ServiceProviderUserRole) (isActive : Bool) :
    Patch ServiceProviderUser.key where
  apply m := { m with role, isActive }
  key_apply _ := rfl

def upsertRow (t : MembershipTable) (m : ServiceProviderUser) : MembershipTable :=
  (t.insert m).getD (t.modify m.key (memberPatch m.role m.isActive))

theorem mem_upsertRow {t : MembershipTable} {m a : ServiceProviderUser} (h : a ∈ upsertRow t m) :
    a.userId = m.userId ∨ a ∈ t := by
  unfold upsertRow at h
  cases hinsert : t.insert m with
  | some t' =>
    rw [hinsert, Option.getD_some] at h
    obtain ha | rfl := (Table.mem_insert hinsert).mp h
    · exact .inr ha
    · exact .inl rfl
  | none =>
    rw [hinsert, Option.getD_none] at h
    obtain ⟨b, -, hkey, rfl⟩ | ⟨ha, -⟩ := Table.mem_modify.mp h
    · exact .inl (Prod.mk.inj hkey).2
    · exact .inr ha

def upsertMembership (providerId userId : Id) (role : ServiceProviderUserRole) (isActive : Bool) :
    Statement ServiceProviderUser := fun db =>
  let row : ServiceProviderUser := ⟨providerId, userId, role, isActive⟩
  if h : (∃ u ∈ db.accounts.users, u.key = userId) ∧ (∃ p ∈ db.providers, p.key = providerId) then
    .ok row { db with
      memberships := upsertRow db.memberships row
      member_user := fun m hm => (mem_upsertRow hm).elim (fun huser => huser ▸ h.1)
        (db.member_user m) }
  else .error foreignKeyViolated db

def recordNotFound : HttpException := .internal "Record not found"

/-- The users and the provider that a grant is connected to are there. -/
def connected (db : Db) (actorUserId : Id) (grant : Auth.ServiceProviderAccessGrant) : Bool :=
  (db.accounts.users.findUnique actorUserId).isSome ∧
    grant.userId.all (fun id => (db.accounts.users.findUnique id).isSome) ∧
      (db.providers.findUnique grant.serviceProviderId).isSome

def createAccessGrant (actorUserId : Id) (grant : Auth.ServiceProviderAccessGrant) :
    Statement Auth.ServiceProviderAccessGrant := fun db =>
  if connected db actorUserId grant then
    onAccounts ((fun _ => grant) <$> Auth.perform (.serviceProviderAccessGrant (.create grant))) db
  else .error recordNotFound db

/-- `disabledByUserId` is connected, when it is set. -/
def updateAccessGrant (grantId : Id) (disabledByUserId : Option Id)
    (patch : Patch Auth.ServiceProviderAccessGrant.key) : Statement Unit := fun db =>
  if disabledByUserId.all fun id => (db.accounts.users.findUnique id).isSome then
    onAccounts (Auth.perform (.serviceProviderAccessGrant (.update grantId patch))) db
  else .error recordNotFound db

def findActiveMembershipsForUser (db : Db) (userId : Id) : List ServiceProviderUser :=
  db.memberships.rows.filter fun m => m.userId = userId ∧ m.isActive ∧
    (db.accounts.users.findUnique m.userId).any (·.isActive) ∧
    (db.providers.findUnique m.serviceProviderId).any (·.isActive)

end ServiceProvidersRepo

section ProviderAccessService

def toAccessibleMembership (db : Db) (userId : Id) (m : ServiceProviderUser) :
    Option ServiceProviderUser :=
  let grants := db.accounts.serviceProviderAccessGrants.rows.filter fun g =>
    g.serviceProviderId = m.serviceProviderId ∧ g.userId = some userId
  let hasActiveGrant := grants.any (·.status = .ACTIVE)
  let requiresGrant := grants ≠ []
  if requiresGrant ∧ !hasActiveGrant then none else some m

def listAccessibleMemberships (db : Db) (userId : Id) : List ServiceProviderUser :=
  (findActiveMembershipsForUser db userId).filterMap (toAccessibleMembership db userId)

def getSingleAccessibleMembership (userId : Id) (db : Db) : Result ServiceProviderUser :=
  match listAccessibleMemberships db userId with
  | [] => .error (.forbidden "Forbidden")
  | [m] => .ok m
  | _ => .error (.conflict
      "Multiple active provider memberships require explicit provider selection")

end ProviderAccessService

section Requests

variable (env : Env)

/-- The steps of the request for a token, in the order of `Auth.requestPasswordReset`; for an
invitation of this kind no resident invite is kept. -/
def sendProviderInvite (user : Auth.User) (issuedByUserId : Id) : Call Unit := do
  let tokenHash := env.hashToken env.token
  let expiresAt := env.now + env.passwordResetTtlMinutes * 60 * 1000
  let inviter ← query fun db =>
    .ok (Auth.inviterName .PROVIDER_INVITE (some issuedByUserId) db.accounts)
  atomic (onAccounts (Auth.transaction
    (Auth.createPasswordResetToken user.id tokenHash expiresAt .PROVIDER_INVITE)))
  Script.done (env.enqueuePasswordResetEmail {
    email := user.email
    token := env.token
    tokenHash
    expiresAt
    purpose := .PROVIDER_INVITE
    context := ⟨user.name, inviter⟩
    issuedByUserId := some issuedByUserId
    orgId := user.orgId
    userId := user.id })

def requestPasswordReset (email : String) (issuedByUserId : Id) : Call Unit := do
  let user ← query fun db => .ok (findByEmailInsensitive env (normalizeEmail env email) db.accounts)
  match user with
  | none => return ()
  | some user => if user.isActive then sendProviderInvite env user issuedByUserId else return ()

def resetPassword (token newPassword : String) : Call Unit :=
  atomic (onAccounts (Auth.resetPassword env token newPassword))

end Requests

section ProviderAccessGrantService

variable (env : Env)

structure GrantInput where
  actorUserId : Id
  orgId : Id
  providerId : Id
deriving DecidableEq

def assertProviderVisibleToOrg (orgId providerId : Id) : Call ServiceProvider :=
  query fun db => Outcome.orThrow (findByIdForOrg db providerId orgId)
    (.notFound "Service provider not found")

def standaloneUser (email : String) (name phone : Option String) : Auth.User where
  id := env.ids.user
  email
  name
  phone
  orgId := none
  isActive := true
  passwordHash := env.hashPassword env.temporaryPassword
  refreshTokenHash := none
  mustChangePassword := true

def invitedUser (provider : ServiceProvider) (inviteEmail : String) : Option Auth.User → Call Auth.User
  | some user => do
    throwIf (!user.isActive) (.badRequest "User not found or inactive")
    throwIf (truthy user.orgId).isSome
      (.badRequest "Provider admin email cannot belong to an org-scoped user")
    return user
  | none =>
    atomic (createStandaloneUser
      (standaloneUser env inviteEmail (some (provider.contactName.getD provider.name)) none))

def pendingGrant (providerId userId : Id) (inviteEmail : String) :
    Auth.ServiceProviderAccessGrant where
  id := env.ids.grant
  userId := some userId
  serviceProviderId := providerId
  status := .PENDING
  inviteEmail := some inviteEmail
  invitedAt := some env.now
  acceptedAt := none
  disabledAt := none
  disabledByUserId := none
  verificationMethod := some "PROVIDER_INVITE"

def createPendingInvite (input : GrantInput) (email : String) :
    Call Auth.ServiceProviderAccessGrant := do
  let provider ← assertProviderVisibleToOrg input.orgId input.providerId
  let openGrantCount ← query fun db => .ok (countOpenAccessGrants db provider.id)
  throwIf (openGrantCount > 0) (.conflict "Provider already has an open admin access grant")
  let inviteEmail := normalizeEmail env email
  let found ← query fun db => .ok (findByEmailInsensitive env inviteEmail db.accounts)
  let user ← invitedUser env provider inviteEmail found
  let _ ← atomic (upsertMembership provider.id user.id .ADMIN true)
  let grant ← atomic (createAccessGrant input.actorUserId
    (pendingGrant env provider.id user.id inviteEmail))
  requestPasswordReset env inviteEmail input.actorUserId
  return grant

def invitedAgain (now : Date) : Patch Auth.ServiceProviderAccessGrant.key where
  apply g := { g with invitedAt := some now }
  key_apply _ := rfl

def resendInvite (input : GrantInput) (grantId : Id) : Call Unit := do
  let _ ← assertProviderVisibleToOrg input.orgId input.providerId
  let grant ← query fun db => Outcome.orThrow (findAccessGrant db input.providerId grantId)
    (.notFound "Provider access grant not found")
  throwIf (grant.status ≠ .PENDING) (.conflict "Only pending provider access grants can be resent")
  let inviteEmail ← Script.orThrow (truthy grant.inviteEmail)
    (.conflict "Grant is not email-invite based")
  atomic (updateAccessGrant grant.id none (invitedAgain env.now))
  requestPasswordReset env inviteEmail input.actorUserId

def grantDisabled (now : Date) (disabledByUserId : Id) (verificationMethod : Option String) :
    Patch Auth.ServiceProviderAccessGrant.key where
  apply g := { g with
    status := .DISABLED
    disabledAt := some now
    disabledByUserId := some disabledByUserId
    verificationMethod }
  key_apply _ := rfl

def disableGrant (input : GrantInput) (grantId : Id) (verificationMethod : Option String) :
    Call Unit := do
  let _ ← assertProviderVisibleToOrg input.orgId input.providerId
  let grant ← query fun db => Outcome.orThrow (findAccessGrant db input.providerId grantId)
    (.notFound "Provider access grant not found")
  throwIf (grant.status = .DISABLED) (.conflict "Provider access grant is already disabled")
  atomic (updateAccessGrant grant.id (some input.actorUserId)
    (grantDisabled env.now input.actorUserId (verificationMethod.or grant.verificationMethod)))

end ProviderAccessGrantService

section ProviderPortalService

variable (env : Env) (user : Option AuthenticatedUser)

structure CreateProviderStaffDto where
  email : String
  name : String
  phone : Field String
  role : ServiceProviderUserRole
  isActive : Option Bool
deriving DecidableEq

structure UpdateProviderStaffDto where
  role : Option ServiceProviderUserRole
  isActive : Option Bool
deriving DecidableEq

structure UpdateServiceProviderDto where
  name : Field String
  serviceCategory : Field String
  contactName : Field String
  contactEmail : Field String
  contactPhone : Field String
  notes : Field String
  isActive : Field Bool
deriving DecidableEq

structure ServiceProviderUpdateData where
  name : Option String
  serviceCategory : Field String
  contactName : Field String
  contactEmail : Field String
  contactPhone : Field String
  notes : Field String
  isActive : Option Bool
deriving DecidableEq

def cannotTrimNull : HttpException :=
  .internal "Cannot read properties of null (reading 'trim')"

def normalizeRequiredText (value fieldName : String) : Result String :=
  if trimString value = "" then .error (.badRequest (fieldName ++ " is required"))
  else .ok (trimString value)

/-- A text that is blank clears its column. -/
def normalizeOptionalText : Field String → Result (Field String)
  | .undefined => .ok .undefined
  | .null => .error cannotTrimNull
  | .value value => .ok (if trimString value = "" then .null else .value (trimString value))

def profileName : Field String → Result (Option String)
  | .undefined => .ok none
  | .null => .error cannotTrimNull
  | .value value => some <$> normalizeRequiredText value "name"

def profileActive : Field Bool → Result (Option Bool)
  | .undefined => .ok none
  | .null => .error (.internal "Argument must not be null")
  | .value isActive => .ok (some isActive)

def profileUpdate (dto : UpdateServiceProviderDto) : Result ServiceProviderUpdateData := do
  let name ← profileName dto.name
  let serviceCategory ← normalizeOptionalText dto.serviceCategory
  let contactName ← normalizeOptionalText dto.contactName
  let contactEmail ← normalizeOptionalText dto.contactEmail
  let contactPhone ← normalizeOptionalText dto.contactPhone
  let notes ← normalizeOptionalText dto.notes
  let isActive ← profileActive dto.isActive
  return { name, serviceCategory, contactName, contactEmail, contactPhone, notes, isActive }

def ServiceProviderUpdateData.patch (data : ServiceProviderUpdateData) :
    Patch ServiceProvider.key where
  apply p := { p with
    name := data.name.getD p.name
    serviceCategory := nullableColumn data.serviceCategory p.serviceCategory
    contactName := nullableColumn data.contactName p.contactName
    contactEmail := nullableColumn data.contactEmail p.contactEmail
    contactPhone := nullableColumn data.contactPhone p.contactPhone
    notes := nullableColumn data.notes p.notes
    isActive := data.isActive.getD p.isActive }
  key_apply _ := rfl

def updatePortalView (providerId : Id) (data : ServiceProviderUpdateData) : Statement Unit :=
  fun db =>
    if (db.providers.findUnique providerId).isSome then
      .ok () { db with providers := db.providers.modify providerId data.patch }
    else .error recordNotFound db

def requireProviderMembership : Call ServiceProviderUser := do
  let userId ← Script.orThrow (truthy (user.map (·.sub))) (.forbidden "Forbidden")
  query (getSingleAccessibleMembership userId)

def requireProviderAdmin : Call ServiceProviderUser := do
  let membership ← requireProviderMembership user
  throwIf (membership.role ≠ .ADMIN) (.forbidden "Forbidden")
  return membership

def updateProfile (dto : UpdateServiceProviderDto) : Call Unit := do
  let membership ← requireProviderAdmin user
  let data ← Script.done (profileUpdate dto)
  atomic (updatePortalView membership.serviceProviderId data)

def staffUser (dto : CreateProviderStaffDto) (email : String) : Result Auth.User := do
  let name ← normalizeRequiredText dto.name "name"
  let phone ← normalizeOptionalText dto.phone
  return standaloneUser env email (some name) phone.toOption

def createStaff (dto : CreateProviderStaffDto) : Call ServiceProviderUser := do
  let membership ← requireProviderAdmin user
  let email := normalizeEmail env dto.email
  let existing ← query fun db => .ok (findByEmailInsensitive env email db.accounts)
  throwIf existing.isSome (.conflict "Email already in use")
  let row ← Script.done (staffUser env dto email)
  let createdUser ← atomic (createStandaloneUser row)
  atomic (upsertMembership membership.serviceProviderId createdUser.id dto.role
    (dto.isActive.getD true))

def updateStaff (staffUserId : Id) (dto : UpdateProviderStaffDto) : Call ServiceProviderUser := do
  let adminMembership ← requireProviderAdmin user
  throwIf (adminMembership.userId = staffUserId)
    (.conflict "Provider admins cannot modify their own membership")
  let membership ← query fun db => Outcome.orThrow
    (db.memberships.findUnique (adminMembership.serviceProviderId, staffUserId))
    (.notFound "Provider staff user not found")
  atomic (upsertMembership adminMembership.serviceProviderId staffUserId
    (dto.role.getD membership.role) (dto.isActive.getD membership.isActive))

end ProviderPortalService

section NotificationRecipientResolver

def getActiveProviderManagers (db : Db) (serviceProviderId : Id) : List Id :=
  ((db.memberships.rows.filter fun m => m.serviceProviderId = serviceProviderId ∧
    m.role = .ADMIN ∧ m.isActive ∧
      (db.accounts.users.findUnique m.userId).any (·.isActive) ∧
      (db.providers.findUnique m.serviceProviderId).any (·.isActive)).map (·.userId)).dedup

/-- What the resolver reads of a request. -/
structure ExecutionSnapshot where
  createdByUserId : Id
  assignedToUserId : Option Id
  serviceProviderAssignedUserId : Option Id
  serviceProviderId : Option Id
deriving DecidableEq

/-- The administrators of the request's provider, when it has no provider user of its own. -/
def executionManagers (db : Db) (request : ExecutionSnapshot) : List Id :=
  match truthy request.serviceProviderAssignedUserId, truthy request.serviceProviderId with
  | none, some providerId => getActiveProviderManagers db providerId
  | _, _ => []

/-- `opsRecipients` is what `resolveOpsRecipients` gives. -/
def resolveExecutionRecipients (db : Db) (opsRecipients : List Id) (request : ExecutionSnapshot) :
    List Id :=
  (request.createdByUserId :: (truthy request.assignedToUserId).toList ++
    (truthy request.serviceProviderAssignedUserId).toList ++ executionManagers db request ++
      opsRecipients).dedup

end NotificationRecipientResolver

end Towerdesk.Providers
