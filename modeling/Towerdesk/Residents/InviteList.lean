import Towerdesk.Auth.Service
import Towerdesk.Lib.Base64
import Towerdesk.Lib.Keyset
import Mathlib.Data.Prod.Lex

/-!
# The list of resident invites

An organisation's invites by the time they were sent, with a status made from what is stored
and the clock: an invite that was sent is pending until it expires, whatever has become of
its token.
-/

namespace Towerdesk.Residents

open Auth (Db ResidentInvite)

structure CursorPayload where
  sentAt : Option String
  id : Option String

structure InviteCursor where
  sentAt : Date
  id : Id

/-- What the list takes from outside the repository: the order of text in the database and its
test for a substring that ignores case, JSON, and text as bytes and dates. -/
structure Runtime (ι : Type*) where
  collate : Id ↪ ι
  containsInsensitive : String → String → Bool
  utf8 : ByteArray → String
  parseJson : String → Option CursorPayload
  stringify : CursorPayload → String
  parseDate : String → Option Date
  toISOString : Date → String

inductive StatusFilter
  | ALL | PENDING | ACCEPTED | FAILED | EXPIRED
deriving DecidableEq, Repr

inductive InviteStatus
  | PENDING | ACCEPTED | FAILED | EXPIRED
deriving DecidableEq, Repr

structure ListResidentInvitesQueryDto where
  cursor : Option String := none
  limit : Option ℤ := none
  q : Option String := none
  status : Option StatusFilter := none

structure InviteUser where
  id : Id
  email : String
  name : Option String
  isActive : Bool
  mustChangePassword : Bool
deriving DecidableEq

structure InviteActor where
  id : Id
  email : String
  name : Option String
deriving DecidableEq

structure ResidentInviteRow where
  inviteId : Id
  status : InviteStatus
  sentAt : Date
  expiresAt : Date
  acceptedAt : Option Date
  failedAt : Option Date
  failureReason : Option String
  user : InviteUser
  createdByUser : Option InviteActor
deriving DecidableEq

structure ResidentInvitesPage where
  items : List ResidentInviteRow
  nextCursor : Option String
deriving DecidableEq

section Cursor

variable {ι : Type*} (runtime : Runtime ι)

def decodeResidentInviteCursor (cursor : String) : Result InviteCursor := do
  let decoded := runtime.utf8 ⟨(Base64.decode cursor.toList).toArray⟩
  let payload ← Outcome.orThrow (runtime.parseJson decoded) (.badRequest "Invalid cursor")
  let id ← Outcome.orThrow (truthy payload.id) (.badRequest "Invalid cursor")
  let sentAt ← Outcome.orThrow (truthy payload.sentAt) (.badRequest "Invalid cursor")
  let sentAt ← Outcome.orThrow (runtime.parseDate sentAt) (.badRequest "Invalid cursor")
  return ⟨sentAt, id⟩

def encodeResidentInviteCursor (item : ResidentInvite) : String :=
  let payload := runtime.stringify ⟨some (runtime.toISOString item.sentAt), some item.id⟩
  .ofList (Base64.encode payload.toUTF8.data.toList)

def readCursor (cursor : Option String) : Result (Option InviteCursor) :=
  match truthy cursor with
  | none => .ok none
  | some cursor => some <$> decodeResidentInviteCursor runtime cursor

end Cursor

section Query

variable {ι : Type*} [LinearOrder ι] (runtime : Runtime ι) (now : Date)

def passesStatus (status : StatusFilter) (invite : ResidentInvite) : Bool :=
  match status with
  | .ALL => true
  | .PENDING => invite.status = .SENT ∧ now < invite.expiresAt
  | .EXPIRED => invite.status = .SENT ∧ invite.expiresAt ≤ now
  | .ACCEPTED => invite.status = .ACCEPTED
  | .FAILED => invite.status = .FAILED

def passesSearch (q : Option String) (user : Auth.User) : Bool :=
  match truthy (q.map trimString) with
  | none => true
  | some q => user.name.any (runtime.containsInsensitive · q) ||
      runtime.containsInsensitive user.email q

def beforeCursor (cursor : Option InviteCursor) (invite : ResidentInvite) : Bool :=
  match cursor with
  | none => true
  | some cursor => invite.sentAt < cursor.sentAt ∨
      invite.sentAt = cursor.sentAt ∧ runtime.collate invite.id < runtime.collate cursor.id

/-- `orderBy: [{ sentAt: 'desc' }, { id: 'desc' }]` is descending in this. -/
def inviteKey (row : ResidentInvite × Auth.User) : Date ×ₗ ι :=
  toLex (row.1.sentAt, runtime.collate row.1.id)

/-- The invites of an organisation, each with its user. -/
def invitesWithUser (db : Db) (orgId : Id) : List (ResidentInvite × Auth.User) :=
  (db.residentInvites.rows.filter fun invite => invite.orgId = orgId).filterMap fun invite =>
    (db.users.findUnique invite.userId).map fun user => (invite, user)

def findInvites (db : Db) (orgId : Id) (query : ListResidentInvitesQueryDto)
    (cursor : Option InviteCursor) (take : ℕ) : List (ResidentInvite × Auth.User) :=
  (Keyset.sorted (inviteKey runtime) ((invitesWithUser db orgId).filter fun row =>
    passesSearch runtime query.q row.2 && passesStatus now (query.status.getD .ALL) row.1 &&
      beforeCursor runtime cursor row.1)).take take

def statusValue (invite : ResidentInvite) : InviteStatus :=
  match invite.status with
  | .ACCEPTED => .ACCEPTED
  | .FAILED => .FAILED
  | .SENT => if invite.expiresAt ≤ now then .EXPIRED else .PENDING

def inviteActor (db : Db) (invite : ResidentInvite) : Option InviteActor := do
  let createdByUserId ← invite.createdByUserId
  let actor ← db.users.findUnique createdByUserId
  return ⟨actor.id, actor.email, actor.name⟩

def toInviteRow (db : Db) (row : ResidentInvite × Auth.User) : ResidentInviteRow where
  inviteId := row.1.id
  status := statusValue now row.1
  sentAt := row.1.sentAt
  expiresAt := row.1.expiresAt
  acceptedAt := row.1.acceptedAt
  failedAt := row.1.failedAt
  failureReason := row.1.failureReason
  user := ⟨row.2.id, row.2.email, row.2.name, row.2.isActive, row.2.mustChangePassword⟩
  createdByUser := inviteActor db row.1

def pageLimit (query : ListResidentInvitesQueryDto) : ℕ :=
  (min (max (query.limit.getD 50) 1) 100).toNat

def listResidentInvitesInOrg (db : Db) (user : Option AuthenticatedUser)
    (query : ListResidentInvitesQueryDto) : Result ResidentInvitesPage := do
  let orgId ← assertOrgScope user
  let cursor ← readCursor runtime query.cursor
  let rows := findInvites runtime now db orgId query cursor (pageLimit query + 1)
  let hasMore := pageLimit query < rows.length
  let sliced := if hasMore then rows.take (pageLimit query) else rows
  return {
    items := sliced.map (toInviteRow now db)
    nextCursor := if hasMore then
      sliced.getLast?.map fun row => encodeResidentInviteCursor runtime row.1 else none }

end Query

section Shown

variable {ι : Type*} [LinearOrder ι] {runtime : Runtime ι} {now : Date} {db : Db}

theorem statusValue_eq_pending {invite : ResidentInvite} :
    statusValue now invite = .PENDING ↔ invite.status = .SENT ∧ now < invite.expiresAt := by
  unfold statusValue
  cases invite.status with
  | SENT => simp
  | FAILED => simp
  | ACCEPTED => simp

theorem mem_findInvites {orgId : Id} {query : ListResidentInvitesQueryDto}
    {cursor : Option InviteCursor} {take : ℕ} {row : ResidentInvite × Auth.User}
    (h : row ∈ findInvites runtime now db orgId query cursor take) :
    row.1 ∈ db.residentInvites ∧ row.2 ∈ db.users ∧ row.2.key = row.1.userId := by
  have hrow := (List.mem_filter.mp (Keyset.mem_sorted.mp (List.mem_of_mem_take h))).1
  obtain ⟨invite, hinvite, huser⟩ := List.mem_filterMap.mp hrow
  obtain ⟨user, hfind, rfl⟩ := Option.map_eq_some_iff.mp huser
  obtain ⟨hmem, hid⟩ := Table.findUnique_eq_some.mp hfind
  exact ⟨List.mem_of_mem_filter hinvite, hmem, hid⟩

theorem shown_pending {user : Option AuthenticatedUser} {query : ListResidentInvitesQueryDto}
    {page : ResidentInvitesPage}
    (h : listResidentInvitesInOrg runtime now db user query = .ok page) {item : ResidentInviteRow}
    (hitem : item ∈ page.items) (hpending : item.status = .PENDING) :
    ∃ invite ∈ db.residentInvites, item.inviteId = invite.id ∧ item.user.id = invite.userId ∧
      invite.status = .SENT ∧ now < invite.expiresAt := by
  obtain ⟨orgId, -, h⟩ := Outcome.bind_eq_ok.mp h
  obtain ⟨cursor, -, h⟩ := Outcome.bind_eq_ok.mp h
  obtain rfl := Outcome.pure_eq_ok.mp h
  obtain ⟨row, hrow, rfl⟩ := List.mem_map.mp hitem
  have hmem : row ∈ findInvites runtime now db orgId query cursor (pageLimit query + 1) := by
    split at hrow
    · exact List.mem_of_mem_take hrow
    · exact hrow
  obtain ⟨hinvite, -, huser⟩ := mem_findInvites hmem
  exact ⟨row.1, hinvite, rfl, huser, statusValue_eq_pending.mp hpending⟩

end Shown

end Towerdesk.Residents
