import Towerdesk.Lib.Run
import Towerdesk.Lib.Trail
import Towerdesk.Owners.AccessGrants

/-!
# The trail of owner grants

Six operations in two services change grants, each with an audit row for every grant it
changes. What they share: the rows they add record the change, a grant that is disabled
stays so, and a grant that becomes active has a user, no email and an owner the operation
may open it for.
-/

namespace Towerdesk.Owners

open Auth (Db DbWrite Env Service OwnerBooks OwnerAccessGrantAudit perform transaction
  requestPasswordReset resetPassword)
open Program (Code)
open Transaction (read Ends)

def grantTrail : Trail Auth.OwnerAccessGrant.key OwnerAccessGrantAudit GrantStatus where
  status g := g.status
  row a := a.grantId
  before a := a.fromStatus
  after a := a.toStatus

structure GrantRecords where
  books : OwnerBooks
  audits : List OwnerAccessGrantAudit

def recordsOf (db : Db) : GrantRecords := ⟨db.books, db.ownerAccessGrantAudits⟩

/-- A change of grants with its audit rows. -/
structure Audited (opens : Auth.OwnerAccessGrant → Prop) (r r' : GrantRecords) : Prop where
  recorded : ∃ rows, r'.audits = r.audits ++ rows ∧
    grantTrail.Recorded r.books.grants.table r'.books.grants.table rows
  disabled : ∀ g ∈ r.books.grants, g.status = .DISABLED →
    ∃ g' ∈ r'.books.grants, g'.id = g.id ∧ g'.status = .DISABLED
  opened : ∀ g ∈ r'.books.grants, g.status = .ACTIVE →
    g ∈ r.books.grants ∨ (g.userId.isSome ∧ g.inviteEmail = none ∧ opens g)

section Changes

variable {opens : Auth.OwnerAccessGrant → Prop} {r r' : GrantRecords} {g : Auth.OwnerAccessGrant}
  {row : OwnerAccessGrantAudit}

theorem Audited.of_grants_eq {rows : List OwnerAccessGrantAudit}
    (hgrants : r'.books.grants = r.books.grants) (haudits : r'.audits = r.audits ++ rows)
    (h : grantTrail.Recorded r.books.grants.table r.books.grants.table rows) :
    Audited opens r r' := by
  refine ⟨⟨rows, haudits, hgrants ▸ h⟩, ?_, ?_⟩
  · intro g hg hdisabled
    exact ⟨g, hgrants ▸ hg, rfl, hdisabled⟩
  · intro g hg _
    exact .inl (hgrants ▸ hg)

theorem Audited.refl (r : GrantRecords) : Audited opens r r :=
  .of_grants_eq rfl (List.append_nil _).symm Trail.recorded_nil

theorem Audited.created (hwrite : r.books.grants.write (.create g) = .ok r'.books.grants)
    (haudits : r'.audits = r.audits ++ [row]) (hrow : row.grantId = g.id)
    (hfrom : row.fromStatus = none) (hto : row.toStatus = g.status)
    (hopen : g.status = .ACTIVE → g.userId.isSome ∧ g.inviteEmail = none ∧ opens g) :
    Audited opens r r' := by
  have hinsert := Table.apply_create.mp (Constrained.write_eq_ok.mp hwrite)
  refine ⟨⟨[row], haudits, Trail.recorded_insert hinsert hrow hfrom hto⟩, ?_, ?_⟩
  · intro h hh hdisabled
    exact ⟨h, (Table.mem_insert hinsert).mpr (.inl hh), rfl, hdisabled⟩
  · intro h hh hactive
    rcases (Table.mem_insert hinsert).mp hh with hh | rfl
    · exact .inl hh
    · exact .inr (hopen hactive)

theorem Audited.changed {q : Auth.OwnerAccessGrant → Bool} {p : Patch Auth.OwnerAccessGrant.key}
    {rows : List OwnerAccessGrantAudit}
    (htable : r'.books.grants.table = r.books.grants.table.modifyWhere q p)
    (haudits : r'.audits = r.audits ++ rows)
    (hrows : rows.map (fun a => (a.grantId, a.fromStatus, a.toStatus)) =
      (r.books.grants.table.rows.filter q).map fun g => (g.id, some g.status, (p.apply g).status))
    (hdisabled : ∀ g ∈ r.books.grants, q g = true → g.status = .DISABLED →
      (p.apply g).status = .DISABLED)
    (hopen : ∀ g ∈ r.books.grants, q g = true → (p.apply g).status = .ACTIVE →
      (p.apply g).userId.isSome ∧ (p.apply g).inviteEmail = none ∧ opens (p.apply g)) :
    Audited opens r r' := by
  have hmem : ∀ g, g ∈ r'.books.grants ↔ g ∈ r.books.grants.table.modifyWhere q p := by
    intro g
    rw [Constrained.mem_table, htable]
  refine ⟨⟨rows, haudits, htable ▸ Trail.recorded_modifyWhere hrows⟩, ?_, ?_⟩
  · intro g hg hstatus
    cases hq : q g with
    | true =>
      exact ⟨p.apply g, (hmem _).mpr (Table.mem_modifyWhere.mpr (.inl ⟨g, hg, hq, rfl⟩)),
        p.key_apply g, hdisabled g hg hq hstatus⟩
    | false => exact ⟨g, (hmem g).mpr (Table.mem_modifyWhere.mpr (.inr ⟨hg, hq⟩)), rfl, hstatus⟩
  · intro g' hg' hactive
    rcases Table.mem_modifyWhere.mp ((hmem g').mp hg') with ⟨g, hg, hq, rfl⟩ | ⟨hg', -⟩
    · exact .inr (hopen g hg hq hactive)
    · exact .inl hg'

theorem Audited.updated {p : Patch Auth.OwnerAccessGrant.key} (hg : g ∈ r.books.grants)
    (hwrite : r.books.grants.write (.update g.key p) = .ok r'.books.grants)
    (haudits : r'.audits = r.audits ++ [row]) (hrow : row.grantId = g.id)
    (hfrom : row.fromStatus = some g.status) (hto : row.toStatus = (p.apply g).status)
    (hdisabled : g.status = .DISABLED → (p.apply g).status = .DISABLED)
    (hopen : (p.apply g).status = .ACTIVE →
      (p.apply g).userId.isSome ∧ (p.apply g).inviteEmail = none ∧ opens (p.apply g)) :
    Audited opens r r' := by
  have hsame : ∀ h ∈ r.books.grants, decide (h.key = g.key) = true → h = g :=
    fun h hh hkey => Table.eq_of_key_eq hh hg (of_decide_eq_true hkey)
  have hfilter : (r.books.grants.table.rows.filter fun h => decide (h.key = g.key)) = [g] := by
    rw [Table.filter_key_eq, Table.findUnique_eq_some.mpr ⟨hg, rfl⟩]
    rfl
  obtain ⟨-, htable⟩ := Table.apply_update.mp (Constrained.write_eq_ok.mp hwrite)
  have hwhere : r.books.grants.table.modifyWhere (fun h => h.key = g.key) p =
      r.books.grants.table.modify g.key p :=
    Table.modifyWhere_eq_modify fun h _ => decide_eq_true_iff
  refine Audited.changed (htable.trans hwhere.symm) haudits ?_ ?_ ?_
  · rw [hfilter, List.map_singleton, List.map_singleton, hrow, hfrom, hto]
  · intro h hh hkey
    rw [hsame h hh hkey]
    exact hdisabled
  · intro h hh hkey
    rw [hsame h hh hkey]
    exact hopen

end Changes

section Steps

/-- Whatever is done, also when it throws, the records end up as `P` says. -/
def Ensures {α : Type} (P : GrantRecords → Prop) (m : Service α) (db : Db) : Prop :=
  Ends (fun db' => P (recordsOf db')) (fun _ db' => P (recordsOf db')) (m db)

def KeepsRecords {α : Type} (m : Service α) : Prop :=
  ∀ db, Ensures (· = recordsOf db) m db

variable {α β : Type} {P : GrantRecords → Prop} {db : Db}

theorem KeepsRecords.ensures {m : Service α} (hm : KeepsRecords m) (h : P (recordsOf db)) :
    Ensures P m db :=
  (hm db).imp (fun _ hs => hs ▸ h) fun _ _ hs => hs ▸ h

theorem KeepsRecords.ensures_bind {m : Service α} {f : α → Service β} (hm : KeepsRecords m)
    (h : P (recordsOf db)) (hf : ∀ a db', recordsOf db' = recordsOf db → Ensures P (f a) db') :
    Ensures P (m >>= f) db :=
  Transaction.ends_bind ((hm db).imp (fun _ hs => hs ▸ h) fun _ _ hs => hs) hf

theorem Ensures.bind {m : Service α} {f : α → Service β} (hm : Ensures P m db)
    (hf : ∀ a db', P (recordsOf db') → Ensures P (f a) db') : Ensures P (m >>= f) db :=
  Transaction.ends_bind hm hf

theorem ensures_read {f : Db → Result α} {g : α → Service β} (h : P (recordsOf db))
    (hf : ∀ a, f db = .ok a → Ensures P (g a) db) : Ensures P (read f >>= g) db :=
  Transaction.ends_read_bind h hf

theorem ensures_pure {a : α} (h : P (recordsOf db)) : Ensures P (pure a) db := h

theorem ensures_record {w : Table.Write Auth.OwnerAccessGrant.key} {row : OwnerAccessGrantAudit}
    {k : Service β} (h : P (recordsOf db))
    (hk : ∀ db', (∃ books, (DbWrite.ownerAccessGrant w).apply db = .ok { db with books } ∧
      recordsOf db' = ⟨books, db.ownerAccessGrantAudits ++ [row]⟩) → Ensures P k db') :
    Ensures P (do perform (.ownerAccessGrant w); createAudit row; k) db := by
  have hperform : Ends (fun db' => P (recordsOf db')) (fun _ db' => ∃ books,
      (DbWrite.ownerAccessGrant w).apply db = .ok { db with books } ∧ db' = { db with books })
      (perform (.ownerAccessGrant w) db) := by
    refine Program.ends_statement h fun db' hdb' => ?_
    obtain ⟨-, -, hbooks⟩ := Auth.apply_ownerAccessGrant.mp hdb'
    exact ⟨db'.books, hbooks ▸ hdb', hbooks.symm⟩
  refine Transaction.ends_bind hperform fun _ db' hdb' => ?_
  obtain ⟨books, hwrite, rfl⟩ := hdb'
  exact hk _ ⟨books, hwrite, rfl⟩

theorem ensures_createAudit {row : OwnerAccessGrantAudit} {k : Service β}
    (hk : ∀ db', recordsOf db' = ⟨db.books, db.ownerAccessGrantAudits ++ [row]⟩ →
      Ensures P k db') : Ensures P (do createAudit row; k) db :=
  hk { db with ownerAccessGrantAudits := db.ownerAccessGrantAudits ++ [row] } rfl

theorem KeepsRecords.bind {m : Service α} {f : α → Service β} (hm : KeepsRecords m)
    (hf : ∀ a, KeepsRecords (f a)) : KeepsRecords (m >>= f) := by
  intro db
  exact hm.ensures_bind rfl fun a db' hdb' => (hf a).ensures hdb'

theorem keepsRecords_pure (a : α) : KeepsRecords (pure a) := fun _ => rfl

theorem keepsRecords_read (f : Db → Result α) : KeepsRecords (read f) := by
  intro db
  exact Transaction.ends_read rfl fun _ _ => rfl

theorem keepsRecords_transaction {c : Auth.Statements α}
    (h : ∀ db a db', c.run DbWrite.apply db = .ok (a, db') → recordsOf db' = recordsOf db) :
    KeepsRecords (transaction c) := by
  intro db
  exact Program.ends_atomically rfl fun a db' hdb' => h db a db' hdb'

theorem keepsRecords_perform {w : DbWrite}
    (h : ∀ db db', w.apply db = .ok db' → recordsOf db' = recordsOf db) :
    KeepsRecords (perform w) := by
  refine keepsRecords_transaction fun db _ db' hdb' => ?_
  exact h db db' (Code.run_perform.mp hdb')

end Steps

section Requests

variable (env : Env)

theorem keepsRecords_createPasswordResetToken (userId : Id) (tokenHash : String) (expiresAt : Date)
    (purpose : Delivery.PasswordResetEmailPurpose) :
    KeepsRecords (transaction (Auth.createPasswordResetToken userId tokenHash expiresAt purpose)) := by
  refine keepsRecords_transaction fun db _ db' h => ?_
  simp only [Auth.createPasswordResetToken, Code.run_bind, Code.run_perform] at h
  obtain ⟨_, db₁, hdelete, hcreate⟩ := h
  obtain ⟨tokens, -, rfl⟩ := Auth.apply_passwordResetToken.mp hcreate
  rw [← Except.ok.inj hdelete]
  rfl

theorem keepsRecords_inviteResident (user : Auth.User)
    (purpose : Delivery.PasswordResetEmailPurpose) (issuedByUserId : Option Id)
    (tokenHash : String) (expiresAt : Date) :
    KeepsRecords (Auth.inviteResident env user purpose issuedByUserId tokenHash expiresAt) := by
  unfold Auth.inviteResident
  split
  · split
    · refine keepsRecords_perform fun db db' h => ?_
      obtain ⟨invites, -, rfl⟩ := Auth.apply_residentInvite.mp h
      rfl
    · exact keepsRecords_pure ()
  · exact keepsRecords_pure ()

theorem keepsRecords_requestPasswordReset (email : String)
    (purpose : Option Delivery.PasswordResetEmailPurpose) (issuedByUserId : Option Id) :
    KeepsRecords (requestPasswordReset env email purpose issuedByUserId) := by
  refine KeepsRecords.bind (keepsRecords_read _) fun user => ?_
  cases user with
  | none => exact keepsRecords_pure ()
  | some user =>
    dsimp only
    split
    · refine KeepsRecords.bind (keepsRecords_read _) fun inviter => ?_
      refine KeepsRecords.bind (keepsRecords_createPasswordResetToken _ _ _ _) fun _ => ?_
      exact KeepsRecords.bind (keepsRecords_inviteResident env _ _ _ _ _) fun _ =>
        keepsRecords_read _
    · exact keepsRecords_pure ()

theorem run_forM_notification {ids : List Id} {row : Id → Delivery.NotificationInput} {db db' : Db}
    {u : Unit} (h : (ids.forM fun id => (Code.perform (.notification (row id)) :
      Auth.Statements Unit)).run DbWrite.apply db = .ok (u, db')) :
    recordsOf db' = recordsOf db := by
  induction ids generalizing db with
  | nil =>
    obtain ⟨-, rfl⟩ := Code.run_pure.mp h
    rfl
  | cons id ids ih =>
    obtain ⟨_, db₁, hnotify, hrest⟩ := Code.run_bind.mp h
    rw [ih hrest, ← Except.ok.inj (Code.run_perform.mp hnotify)]
    rfl

theorem keepsRecords_createForUsers (orgId : Id) (userIds : List Id)
    (type : Delivery.NotificationType) (title body : String) (data : Delivery.JsonObject) :
    KeepsRecords (createForUsers orgId userIds type title body data) :=
  keepsRecords_transaction fun _ _ _ h => run_forM_notification h

theorem keepsRecords_createOwnerPortalUser (email ownerName : String) :
    KeepsRecords (createOwnerPortalUser env email ownerName) := by
  refine KeepsRecords.bind (keepsRecords_perform fun db db' h => ?_) fun _ => keepsRecords_pure _
  obtain ⟨users, -, rfl⟩ := Auth.apply_user.mp h
  rfl

end Requests

end Towerdesk.Owners
