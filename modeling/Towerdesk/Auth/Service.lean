import Towerdesk.Auth.Redemption

/-!
# The authentication service

Requesting a reset token, which is also how invitations are sent, and setting a password
with one. A service reads, writes and throws; what it has written stays when it throws.
-/

namespace Towerdesk.Auth

open Delivery (PasswordResetEmailPurpose PasswordEmailContext)
open Transaction (read Ends)

/-- What `enqueuePasswordResetEmail` is given. -/
structure PasswordResetEmail where
  email : String
  token : String
  tokenHash : String
  expiresAt : Date
  purpose : PasswordResetEmailPurpose
  context : PasswordEmailContext
  issuedByUserId : Option Id
  orgId : Option Id
  userId : Id

structure FreshIds where
  user : Id
  grant : Id
  invite : Id

/-- What a call depends on besides the tables: the clock, what is drawn at random, how tokens
and passwords are hashed and text is lowered, and how the delivery of an email begins. -/
structure Env where
  now : Date
  ids : FreshIds
  token : String
  temporaryPassword : String
  hashToken : String → String
  hashPassword : String → String
  toLowerCase : String → String
  passwordResetTtlMinutes : ℤ
  enqueuePasswordResetEmail : PasswordResetEmail → Result Unit

abbrev Service (α : Type) := EStateM HttpException Db α

def raiseDbError (_ : DbError) : HttpException := .internal "Internal server error"

def perform (w : DbWrite) : Service Unit := Program.statement DbWrite.apply raiseDbError w

def transaction {α : Type} (c : Statements α) : Service α :=
  Program.atomically DbWrite.apply raiseDbError c

section Requests

variable (env : Env)

def normalizeEmail (email : String) : String := env.toLowerCase (trimString email)

def findByEmailInsensitive (email : String) (db : Db) : Option User :=
  db.users.findFirst fun u => env.toLowerCase u.email = env.toLowerCase email

def isInvite : PasswordResetEmailPurpose → Bool
  | .PASSWORD_RESET => false
  | .RESIDENT_INVITE | .OWNER_INVITE | .PROVIDER_INVITE => true

def inviterName (purpose : PasswordResetEmailPurpose) (issuedByUserId : Option Id) (db : Db) :
    Option String :=
  if isInvite purpose then do
    let id ← truthy issuedByUserId
    let inviter ← db.users.findUnique id
    inviter.name
  else none

def createResidentInvite (user : User) (orgId : Id) (createdByUserId : Option Id)
    (tokenHash : String) (expiresAt : Date) : DbWrite :=
  .residentInvite (.create {
    tokenHash
    id := env.ids.invite
    orgId
    userId := user.id
    createdByUserId
    email := user.email
    status := .SENT
    expiresAt
    sentAt := env.now
    acceptedAt := none
    failedAt := none
    failureReason := none })

def inviteResident (user : User) (purpose : PasswordResetEmailPurpose)
    (issuedByUserId : Option Id) (tokenHash : String) (expiresAt : Date) : Service Unit :=
  match truthy user.orgId with
  | some orgId =>
    if purpose = .RESIDENT_INVITE then
      perform (createResidentInvite env user orgId issuedByUserId tokenHash expiresAt)
    else pure ()
  | none => pure ()

def sendToken (user : User) (purpose : PasswordResetEmailPurpose) (issuedByUserId : Option Id) :
    Service Unit := do
  let tokenHash := env.hashToken env.token
  let expiresAt := env.now + env.passwordResetTtlMinutes * 60 * 1000
  let inviter ← read fun db => .ok (inviterName purpose issuedByUserId db)
  transaction (createPasswordResetToken user.id tokenHash expiresAt purpose)
  inviteResident env user purpose issuedByUserId tokenHash expiresAt
  read fun _ => env.enqueuePasswordResetEmail {
    email := user.email
    token := env.token
    tokenHash
    expiresAt
    purpose
    context := ⟨user.name, inviter⟩
    issuedByUserId
    orgId := user.orgId
    userId := user.id }

def requestPasswordReset (email : String) (purpose : Option PasswordResetEmailPurpose)
    (issuedByUserId : Option Id) : Service Unit := do
  let user ← read fun db => .ok (findByEmailInsensitive env (normalizeEmail env email) db)
  match user with
  | none => return ()
  | some user =>
    if user.isActive then sendToken env user (purpose.getD .PASSWORD_RESET) issuedByUserId
    else return ()

def resetPassword (token newPassword : String) : Service Unit := do
  let changed ← transaction (resetPasswordByToken env.now (env.hashToken (trimString token))
    (env.hashPassword newPassword))
  read fun _ => Outcome.throwIf (!changed) (.unauthorized "Invalid or expired reset token")

variable {env} {db db' : Db} {token newPassword : String}

theorem resetPassword_eq_ok :
    resetPassword env token newPassword db = .ok () db' ↔
      (resetPasswordByToken env.now (env.hashToken (trimString token))
        (env.hashPassword newPassword)).run DbWrite.apply db = .ok (true, db') := by
  simp only [resetPassword, transaction, Program.atomically, bind, EStateM.bind,
    Transaction.read]
  cases hrun : (resetPasswordByToken env.now (env.hashToken (trimString token))
      (env.hashPassword newPassword)).run DbWrite.apply db with
  | error e => simp
  | ok r =>
    obtain ⟨changed, db₁⟩ := r
    cases changed with
    | false => simp [Outcome.throwIf]
    | true => simp [Outcome.throwIf]

theorem exists_resetPassword_iff {t : PasswordResetToken} {u : User}
    (hfind : findTokenWithUser (env.hashToken (trimString token)) db = some (t, u))
    (hgood : redeemable env.now t u = true) :
    (∃ db', resetPassword env token newPassword db = .ok () db') ↔ NoRival t db.books := by
  obtain ⟨ht, -, hu, huser⟩ := findTokenWithUser_eq_some.mp hfind
  have hredeem : (∃ b db', (redeem env.now (env.hashPassword newPassword) t).run DbWrite.apply db =
      .ok (b, db')) ↔ _ := exists_redeem_iff
  simp only [resetPassword_eq_ok, run_reset_of_redeemable hfind hgood]
  constructor
  · rintro ⟨db', h⟩
    exact (hredeem.mp ⟨true, db', h⟩).2.2
  · intro hrival
    obtain ⟨b, db', h⟩ := hredeem.mpr ⟨⟨u, hu, huser⟩, ⟨t, ht, rfl⟩, hrival⟩
    obtain ⟨rfl, -⟩ := redeem_ok h
    exact ⟨db', h⟩

theorem resetPassword_redeems {t : PasswordResetToken} {u : User}
    (hfind : findTokenWithUser (env.hashToken (trimString token)) db = some (t, u))
    (hgood : redeemable env.now t u = true)
    (h : resetPassword env token newPassword db = .ok () db') :
    Activates env.now t db.books db'.books ∧
      redeemedWith env.now (env.hashPassword newPassword) t db db'.books = db' := by
  have hrun := resetPassword_eq_ok.mp h
  rw [run_reset_of_redeemable hfind hgood] at hrun
  obtain ⟨-, -, -, hactivates, hdb'⟩ := redeem_ok hrun
  exact ⟨hactivates, hdb'⟩

end Requests

end Towerdesk.Auth
