import Towerdesk.Lib.Constraint
import Towerdesk.Lib.Program
import Towerdesk.Delivery.Services
import Towerdesk.Directory

/-!
# The store of accounts and access grants

The tables that password resets, invitations and owner grants are kept in, the partial
unique indexes on the grants and what one write does. A reset token and a resident invite
are known by their token hash, which is unique; owners and grants are held together, with
the foreign key from one to the other.
-/

namespace Towerdesk.Auth

open Delivery (NotificationInput ResidentInviteStatus PasswordResetEmailPurpose)

structure User extends Towerdesk.User where
  passwordHash : String
  refreshTokenHash : Option String
  mustChangePassword : Bool
deriving DecidableEq

def User.key (u : User) : Id := u.id

structure PasswordResetToken where
  tokenHash : String
  userId : Id
  purpose : PasswordResetEmailPurpose
  expiresAt : Date
  usedAt : Option Date
deriving DecidableEq

structure ResidentInvite where
  tokenHash : String
  id : Id
  orgId : Id
  userId : Id
  createdByUserId : Option Id
  email : String
  status : ResidentInviteStatus
  expiresAt : Date
  sentAt : Date
  acceptedAt : Option Date
  failedAt : Option Date
  failureReason : Option String
deriving DecidableEq

structure OwnerAccessGrant extends Towerdesk.OwnerAccessGrant where
  inviteEmail : Option String
  invitedAt : Option Date
  acceptedAt : Option Date
  grantedByUserId : Option Id
  disabledAt : Option Date
  disabledByUserId : Option Id
  verificationMethod : Option String
deriving DecidableEq

def OwnerAccessGrant.key (g : OwnerAccessGrant) : Id := g.id

inductive OwnerAccessGrantAuditAction
  | INVITED | LINKED | ACTIVATED | DISABLED | RESENT
deriving DecidableEq, Repr

structure OwnerAccessGrantAudit where
  grantId : Id
  ownerId : Id
  actorUserId : Option Id
  action : OwnerAccessGrantAuditAction
  fromStatus : Option GrantStatus
  toStatus : GrantStatus
  userId : Option Id
  inviteEmail : Option String
  verificationMethod : Option String
deriving DecidableEq

structure ServiceProviderAccessGrant extends Towerdesk.ServiceProviderAccessGrant where
  inviteEmail : Option String
  invitedAt : Option Date
  acceptedAt : Option Date
  disabledAt : Option Date
  disabledByUserId : Option Id
  verificationMethod : Option String
deriving DecidableEq

def ServiceProviderAccessGrant.key (g : ServiceProviderAccessGrant) : Id := g.id

section Indexes

/-- What a write can violate, under its name in the migrations. -/
inductive Constraint
  | OwnerAccessGrant_owner_active_unique
  | OwnerAccessGrant_user_owner_open_unique
  | OwnerAccessGrant_email_owner_open_unique
  | OwnerAccessGrant_ownerId_fkey
deriving DecidableEq, Repr

abbrev DbError := Table.WriteError Constraint

abbrev GrantTable := Table OwnerAccessGrant.key

def activeOwner (g : OwnerAccessGrant) : Option Id :=
  if g.status = .ACTIVE then some g.ownerId else none

def openUserOwner (g : OwnerAccessGrant) : Option (Id × Id) :=
  if g.status = .DISABLED then none else g.userId.map fun userId => (userId, g.ownerId)

def openEmailOwner (g : OwnerAccessGrant) : Option (String × Id) :=
  if g.status = .DISABLED then none else g.inviteEmail.map fun email => (email, g.ownerId)

def grantCheck (t : GrantTable) : Option Constraint :=
  if ¬ t.UniqueOn activeOwner then some .OwnerAccessGrant_owner_active_unique
  else if ¬ t.UniqueOn openUserOwner then some .OwnerAccessGrant_user_owner_open_unique
  else if ¬ t.UniqueOn openEmailOwner then some .OwnerAccessGrant_email_owner_open_unique
  else none

abbrev Grants := Constrained OwnerAccessGrant.key grantCheck

theorem grantCheck_eq_none {t : GrantTable} :
    grantCheck t = none ↔
      t.UniqueOn activeOwner ∧ t.UniqueOn openUserOwner ∧ t.UniqueOn openEmailOwner := by
  unfold grantCheck
  by_cases ha : t.UniqueOn activeOwner
  · by_cases hu : t.UniqueOn openUserOwner
    · by_cases he : t.UniqueOn openEmailOwner <;> simp [ha, hu, he]
    · simp [ha, hu]
  · simp [ha]

theorem grantCheck_empty : grantCheck (.empty _) = none := by decide

variable (grants : Grants)

theorem Grants.active_unique : grants.table.UniqueOn activeOwner :=
  (grantCheck_eq_none.mp grants.valid).1

theorem Grants.open_user_unique : grants.table.UniqueOn openUserOwner :=
  (grantCheck_eq_none.mp grants.valid).2.1

theorem Grants.open_email_unique : grants.table.UniqueOn openEmailOwner :=
  (grantCheck_eq_none.mp grants.valid).2.2

variable {grants} {g h : OwnerAccessGrant}

theorem Grants.eq_of_active (hg : g ∈ grants) (hh : h ∈ grants) (hga : g.status = .ACTIVE)
    (hha : h.status = .ACTIVE) (howner : g.ownerId = h.ownerId) : g = h :=
  grants.active_unique.eq (i := h.ownerId) hg hh (by simp [activeOwner, hga, howner])
    (by simp [activeOwner, hha])

theorem Grants.eq_of_open {userId : Id} (hg : g ∈ grants) (hh : h ∈ grants)
    (hgo : g.status ≠ .DISABLED) (hho : h.status ≠ .DISABLED) (hgu : g.userId = some userId)
    (hhu : h.userId = some userId) (howner : g.ownerId = h.ownerId) : g = h :=
  grants.open_user_unique.eq (i := (userId, h.ownerId)) hg hh
    (by simp [openUserOwner, hgo, hgu, howner]) (by simp [openUserOwner, hho, hhu])

end Indexes

/-- The owners of an organisation's units and the grants of access for them. -/
structure OwnerBooks where
  owners : Table Owner.id
  grants : Grants
  grant_owner : ∀ g ∈ grants.table, ∃ o ∈ owners, o.id = g.ownerId

def OwnerBooks.write (books : OwnerBooks) (owners : Table Owner.id) (grants : Grants) :
    Except DbError OwnerBooks :=
  if h : ∀ g ∈ grants.table, ∃ o ∈ owners, o.id = g.ownerId then
    .ok { books with owners, grants, grant_owner := h }
  else .error (.violates .OwnerAccessGrant_ownerId_fkey)

structure Db where
  users : Table User.key
  books : OwnerBooks
  ownerAccessGrantAudits : List OwnerAccessGrantAudit
  passwordResetTokens : Table PasswordResetToken.tokenHash
  residentInvites : Table ResidentInvite.tokenHash
  serviceProviderAccessGrants : Table ServiceProviderAccessGrant.key
  notifications : List NotificationInput

inductive DbWrite
  | user (w : Table.Write User.key)
  | owner (w : Table.Write Owner.id)
  | ownerAccessGrant (w : Table.Write OwnerAccessGrant.key)
  | ownerAccessGrantAudit (row : OwnerAccessGrantAudit)
  | passwordResetToken (w : Table.Write PasswordResetToken.tokenHash)
  | deletePasswordResetTokens (q : PasswordResetToken → Bool)
  | residentInvite (w : Table.Write ResidentInvite.tokenHash)
  | serviceProviderAccessGrant (w : Table.Write ServiceProviderAccessGrant.key)
  | notification (row : NotificationInput)

def DbWrite.apply : DbWrite → Db → Except DbError Db
  | .user w, db => (fun users => { db with users }) <$> w.apply db.users
  | .owner w, db => do
    let owners ← w.apply db.books.owners
    (fun books => { db with books }) <$> db.books.write owners db.books.grants
  | .ownerAccessGrant w, db => do
    let grants ← db.books.grants.write w
    (fun books => { db with books }) <$> db.books.write db.books.owners grants
  | .ownerAccessGrantAudit row, db =>
    .ok { db with ownerAccessGrantAudits := db.ownerAccessGrantAudits ++ [row] }
  | .passwordResetToken w, db =>
    (fun passwordResetTokens => { db with passwordResetTokens }) <$> w.apply db.passwordResetTokens
  | .deletePasswordResetTokens q, db =>
    .ok { db with passwordResetTokens := db.passwordResetTokens.filter fun t => !q t }
  | .residentInvite w, db =>
    (fun residentInvites => { db with residentInvites }) <$> w.apply db.residentInvites
  | .serviceProviderAccessGrant w, db =>
    (fun serviceProviderAccessGrants => { db with serviceProviderAccessGrants }) <$>
      w.apply db.serviceProviderAccessGrants
  | .notification row, db => .ok { db with notifications := db.notifications ++ [row] }

section Rules

theorem OwnerBooks.write_eq_ok {books books' : OwnerBooks} {owners : Table Owner.id}
    {grants : Grants} :
    books.write owners grants = .ok books' ↔ books'.owners = owners ∧ books'.grants = grants := by
  unfold OwnerBooks.write
  constructor
  · intro h
    split at h
    · obtain rfl := Except.ok.inj h
      exact ⟨rfl, rfl⟩
    · cases h
  · intro h
    obtain ⟨rfl, rfl⟩ := h
    rw [dif_pos books'.grant_owner]

variable {db db' : Db}

theorem apply_user {w : Table.Write User.key} :
    (DbWrite.user w).apply db = .ok db' ↔
      ∃ users, w.apply db.users = (.ok users : Except DbError _) ∧ { db with users } = db' :=
  Outcome.map_eq_ok

theorem apply_owner {w : Table.Write Owner.id} :
    (DbWrite.owner w).apply db = .ok db' ↔
      w.apply db.books.owners = (.ok db'.books.owners : Except DbError _) ∧
        db'.books.grants = db.books.grants ∧ { db with books := db'.books } = db' := by
  simp only [DbWrite.apply, Outcome.bind_eq_ok, Outcome.map_eq_ok, OwnerBooks.write_eq_ok]
  constructor
  · rintro ⟨owners, hw, books, ⟨rfl, hgrants⟩, rfl⟩
    exact ⟨hw, hgrants, rfl⟩
  · intro h
    obtain ⟨hw, hgrants, hdb⟩ := h
    exact ⟨_, hw, _, ⟨rfl, hgrants⟩, hdb⟩

theorem apply_ownerAccessGrant {w : Table.Write OwnerAccessGrant.key} :
    (DbWrite.ownerAccessGrant w).apply db = .ok db' ↔
      db.books.grants.write w = .ok db'.books.grants ∧
        db'.books.owners = db.books.owners ∧ { db with books := db'.books } = db' := by
  simp only [DbWrite.apply, Outcome.bind_eq_ok, Outcome.map_eq_ok, OwnerBooks.write_eq_ok]
  constructor
  · rintro ⟨grants, hw, books, ⟨howners, rfl⟩, rfl⟩
    exact ⟨hw, howners, rfl⟩
  · intro h
    obtain ⟨hw, howners, hdb⟩ := h
    exact ⟨_, hw, _, ⟨howners, rfl⟩, hdb⟩

theorem apply_passwordResetToken {w : Table.Write PasswordResetToken.tokenHash} :
    (DbWrite.passwordResetToken w).apply db = .ok db' ↔
      ∃ passwordResetTokens,
        w.apply db.passwordResetTokens = (.ok passwordResetTokens : Except DbError _) ∧
          { db with passwordResetTokens } = db' :=
  Outcome.map_eq_ok

theorem apply_residentInvite {w : Table.Write ResidentInvite.tokenHash} :
    (DbWrite.residentInvite w).apply db = .ok db' ↔
      ∃ residentInvites, w.apply db.residentInvites = (.ok residentInvites : Except DbError _) ∧
        { db with residentInvites } = db' :=
  Outcome.map_eq_ok

theorem apply_serviceProviderAccessGrant {w : Table.Write ServiceProviderAccessGrant.key} :
    (DbWrite.serviceProviderAccessGrant w).apply db = .ok db' ↔
      ∃ serviceProviderAccessGrants,
        w.apply db.serviceProviderAccessGrants =
            (.ok serviceProviderAccessGrants : Except DbError _) ∧
          { db with serviceProviderAccessGrants } = db' :=
  Outcome.map_eq_ok

end Rules

end Towerdesk.Auth
