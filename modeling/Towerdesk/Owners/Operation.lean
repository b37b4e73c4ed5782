import Towerdesk.Owners.GrantTrail

/-!
# The operations on owner grants

A run is a list of operations, each with the environment it runs in. Every operation leaves
an audited change of the grants; what differs is for which owners it may open one. The
service's own operations ask for an active owner, a password reset does not.
-/

namespace Towerdesk.Owners

open Auth (Db DbWrite Env Service OwnerBooks pendingFor NoRival findTokenWithUser redeemable
  requestPasswordReset resetPassword)
open Program (Code)
open Transaction (read final)

inductive Operation
  | createPendingInvite (actorUserId orgId ownerId : Id) (email : String)
  | linkExistingUser (actorUserId orgId ownerId userId : Id)
  | activatePendingGrant (actorUserId orgId ownerId grantId userId : Id)
    (verificationMethod : Option String)
  | disableGrant (actorUserId orgId ownerId grantId : Id) (verificationMethod : Option String)
  | resendInvite (actorUserId : Option Id) (orgId ownerId grantId : Id)
  | requestPasswordReset (email : String) (purpose : Option Delivery.PasswordResetEmailPurpose)
    (issuedByUserId : Option Id)
  | resetPassword (token newPassword : String)
  | updateOwner (user : Option AuthenticatedUser) (ownerId : Id) (dto : UpdateOwnerDto)

def call (env : Env) (db : Db) : Operation → Db
  | .createPendingInvite actorUserId orgId ownerId email =>
    final (createPendingInvite env actorUserId orgId ownerId email db)
  | .linkExistingUser actorUserId orgId ownerId userId =>
    final (linkExistingUser env actorUserId orgId ownerId userId db)
  | .activatePendingGrant actorUserId orgId ownerId grantId userId verificationMethod =>
    final (activatePendingGrant env actorUserId orgId ownerId grantId userId verificationMethod db)
  | .disableGrant actorUserId orgId ownerId grantId verificationMethod =>
    final (disableGrant env actorUserId orgId ownerId grantId verificationMethod db)
  | .resendInvite actorUserId orgId ownerId grantId =>
    final (resendInvite env actorUserId orgId ownerId grantId db)
  | .requestPasswordReset email purpose issuedByUserId =>
    final (requestPasswordReset env email purpose issuedByUserId db)
  | .resetPassword token newPassword => final (resetPassword env token newPassword db)
  | .updateOwner user ownerId dto => final (updateOwner user ownerId dto db)

def next (l : Env × Operation) (db : Db) : Db := call l.1 db l.2

def OwnerIsActive (books : OwnerBooks) (ownerId : Id) : Prop :=
  ∃ o ∈ books.owners, o.id = ownerId ∧ o.isActive = true

/-- The token redeems, and one of the grants it activates is for the owner. -/
def RedeemsFor (env : Env) (token : String) (db : Db) (ownerId : Id) : Prop :=
  ∃ t u, findTokenWithUser (env.hashToken (trimString token)) db = some (t, u) ∧
    redeemable env.now t u = true ∧ NoRival t db.books ∧
      ∃ g ∈ db.books.grants, pendingFor t g = true ∧ g.ownerId = ownerId

/-- The owners for which an operation may open a grant. -/
def opensFor (env : Env) (db : Db) : Operation → Id → Prop
  | .resetPassword token _ => RedeemsFor env token db
  | _ => OwnerIsActive db.books

section Service

variable {env : Env} {db : Db} {r : GrantRecords} {opens : Auth.OwnerAccessGrant → Prop}

theorem grants_write {w : Table.Write Auth.OwnerAccessGrant.key} {books : OwnerBooks}
    (h : (DbWrite.ownerAccessGrant w).apply db = .ok { db with books }) :
    (recordsOf db).books.grants.write w = .ok books.grants :=
  (Auth.apply_ownerAccessGrant.mp h).1

theorem ensures_createActiveGrant {actorUserId userId : Id} {owner : Owner}
    {verificationMethod : String} {action : Auth.OwnerAccessGrantAuditAction}
    (hr : recordsOf db = r) (hopens : ∀ g, g.ownerId = owner.id → opens g) :
    Ensures (Audited opens r)
      (createActiveGrant env actorUserId owner userId verificationMethod action) db := by
  subst hr
  refine ensures_record (Audited.refl _) fun db' hdb' => ?_
  obtain ⟨books, hwrite, hrecords⟩ := hdb'
  have haudited : Audited opens (recordsOf db) (recordsOf db') := by
    rw [hrecords]
    exact Audited.created (grants_write hwrite) rfl rfl rfl rfl
      fun _ => ⟨rfl, rfl, hopens _ rfl⟩
  refine KeepsRecords.ensures (KeepsRecords.bind ?_ fun _ => keepsRecords_pure _) haudited
  exact keepsRecords_createForUsers _ _ _ _ _ _

theorem ensures_createPendingEmailGrant {actorUserId ownerId userId : Id} {inviteEmail : String}
    (hr : recordsOf db = r) :
    Ensures (Audited opens r)
      (createPendingEmailGrant env actorUserId ownerId userId inviteEmail) db := by
  subst hr
  refine ensures_record (Audited.refl _) fun db' hdb' => ?_
  obtain ⟨books, hwrite, hrecords⟩ := hdb'
  refine ensures_pure ?_
  rw [hrecords]
  exact Audited.created (grants_write hwrite) rfl rfl rfl rfl nofun

theorem ensures_inviteByEmail {actorUserId userId : Id} {owner : Owner} {inviteEmail : String}
    (hr : recordsOf db = r) :
    Ensures (Audited opens r) (inviteByEmail env actorUserId owner userId inviteEmail) db := by
  refine Ensures.bind (ensures_createPendingEmailGrant hr) fun grant db' hdb' => ?_
  refine KeepsRecords.ensures (KeepsRecords.bind ?_ fun _ => keepsRecords_pure _) hdb'
  exact keepsRecords_requestPasswordReset env _ _ _

theorem ensures_updateGrant {g : Auth.OwnerAccessGrant} {p : Patch Auth.OwnerAccessGrant.key}
    {row : Auth.OwnerAccessGrantAudit} {α : Type} {k : Service α} (hg : g ∈ db.books.grants)
    (hrow : row.grantId = g.id) (hfrom : row.fromStatus = some g.status)
    (hto : row.toStatus = (p.apply g).status) (hstatus : g.status ≠ .DISABLED)
    (hopen : (p.apply g).status = .ACTIVE →
      (p.apply g).userId.isSome ∧ (p.apply g).inviteEmail = none ∧ opens (p.apply g))
    (hk : KeepsRecords k) :
    Ensures (Audited opens (recordsOf db))
      (do Auth.perform (.ownerAccessGrant (.update g.id p)); createAudit row; k) db := by
  refine ensures_record (Audited.refl _) fun db' hdb' => hk.ensures ?_
  obtain ⟨books, hwrite, hrecords⟩ := hdb'
  rw [hrecords]
  exact Audited.updated hg (grants_write hwrite) rfl hrow hfrom hto (absurd · hstatus) hopen

end Service

section Operations

variable {env : Env} {db : Db}

theorem assertOwnerInOrg_ok {orgId ownerId : Id} {owner : Owner}
    (h : assertOwnerInOrg db orgId ownerId = .ok owner) :
    owner ∈ db.books.owners ∧ owner.id = ownerId := by
  obtain ⟨hmem, howner⟩ := Table.findFirst_some (Outcome.orThrow_eq_ok.mp h)
  exact ⟨hmem, (of_decide_eq_true howner).1⟩

theorem findGrant_ok {ownerId grantId : Id} {g : Auth.OwnerAccessGrant}
    (h : findGrant db ownerId grantId = .ok g) :
    g ∈ db.books.grants ∧ g.id = grantId ∧ g.ownerId = ownerId := by
  obtain ⟨hmem, hgrant⟩ := Table.findFirst_some (Outcome.orThrow_eq_ok.mp h)
  exact ⟨hmem, of_decide_eq_true hgrant⟩

theorem ownerIsActive {orgId ownerId : Id} {owner : Owner} {u : Unit}
    (howner : assertOwnerInOrg db orgId ownerId = .ok owner)
    (hactive : assertOwnerActive owner = .ok u) : OwnerIsActive db.books owner.id :=
  ⟨owner, (assertOwnerInOrg_ok howner).1, rfl, by simpa using Outcome.throwIf_eq_ok.mp hactive⟩

theorem audited_createPendingInvite (actorUserId orgId ownerId : Id) (email : String) :
    Ensures (Audited (fun g => OwnerIsActive db.books g.ownerId) (recordsOf db))
      (createPendingInvite env actorUserId orgId ownerId email) db := by
  have hrefl : Audited (fun g => OwnerIsActive db.books g.ownerId) (recordsOf db) (recordsOf db) :=
    Audited.refl _
  refine ensures_read hrefl fun owner howner => ?_
  refine ensures_read hrefl fun _ hactive => ?_
  refine ensures_read hrefl fun _ _ => ?_
  refine ensures_read hrefl fun user _ => ?_
  have hopens : ∀ g : Auth.OwnerAccessGrant, g.ownerId = owner.id →
      OwnerIsActive db.books g.ownerId := by
    intro g hg
    rw [hg]
    exact ownerIsActive howner hactive
  cases user with
  | some user =>
    refine ensures_read hrefl fun _ _ => ?_
    refine ensures_read hrefl fun _ _ => ?_
    split
    · exact ensures_inviteByEmail rfl
    · exact ensures_createActiveGrant rfl hopens
  | none =>
    refine KeepsRecords.ensures_bind (keepsRecords_createOwnerPortalUser env _ _) hrefl ?_
    intro userId db' hdb'
    refine ensures_read (hdb' ▸ hrefl) fun _ _ => ?_
    exact ensures_inviteByEmail hdb'

theorem audited_linkExistingUser (actorUserId orgId ownerId userId : Id) :
    Ensures (Audited (fun g => OwnerIsActive db.books g.ownerId) (recordsOf db))
      (linkExistingUser env actorUserId orgId ownerId userId) db := by
  have hrefl : Audited (fun g => OwnerIsActive db.books g.ownerId) (recordsOf db) (recordsOf db) :=
    Audited.refl _
  refine ensures_read hrefl fun owner howner => ?_
  refine ensures_read hrefl fun _ hactive => ?_
  refine ensures_read hrefl fun _ _ => ?_
  refine ensures_read hrefl fun _ _ => ?_
  refine ensures_read hrefl fun user _ => ?_
  refine ensures_read hrefl fun _ _ => ?_
  refine ensures_createActiveGrant rfl fun g hg => ?_
  rw [hg]
  exact ownerIsActive howner hactive

theorem audited_activatePendingGrant (actorUserId orgId ownerId grantId userId : Id)
    (verificationMethod : Option String) :
    Ensures (Audited (fun g => OwnerIsActive db.books g.ownerId) (recordsOf db))
      (activatePendingGrant env actorUserId orgId ownerId grantId userId verificationMethod) db := by
  have hrefl : Audited (fun g => OwnerIsActive db.books g.ownerId) (recordsOf db) (recordsOf db) :=
    Audited.refl _
  refine ensures_read hrefl fun owner howner => ?_
  refine ensures_read hrefl fun _ hactive => ?_
  refine ensures_read hrefl fun _ _ => ?_
  refine ensures_read hrefl fun grant hgrant => ?_
  refine ensures_read hrefl fun _ hpending => ?_
  refine ensures_read hrefl fun user _ => ?_
  refine ensures_read hrefl fun _ _ => ?_
  refine ensures_read hrefl fun method _ => ?_
  refine ensures_read hrefl fun _ _ => ?_
  obtain ⟨hmem, -, hownerId⟩ := findGrant_ok hgrant
  have hstatus : grant.status = .PENDING := by simpa using Outcome.throwIf_eq_ok.mp hpending
  refine ensures_updateGrant hmem rfl (congrArg some hstatus.symm) rfl (by simp [hstatus])
    (fun _ => ⟨rfl, rfl, ?_⟩) (KeepsRecords.bind ?_ fun _ => keepsRecords_pure _)
  · change OwnerIsActive db.books grant.ownerId
    rw [hownerId, ← (assertOwnerInOrg_ok howner).2]
    exact ownerIsActive howner hactive
  · exact keepsRecords_createForUsers _ _ _ _ _ _

theorem audited_disableGrant {opens : Auth.OwnerAccessGrant → Prop}
    (actorUserId orgId ownerId grantId : Id) (verificationMethod : Option String) :
    Ensures (Audited opens (recordsOf db))
      (disableGrant env actorUserId orgId ownerId grantId verificationMethod) db := by
  refine ensures_read (Audited.refl _) fun owner howner => ?_
  refine ensures_read (Audited.refl _) fun grant hgrant => ?_
  refine ensures_read (Audited.refl _) fun _ henabled => ?_
  refine ensures_updateGrant (findGrant_ok hgrant).1 rfl rfl rfl
    (Outcome.throwIf_eq_ok.mp henabled) nofun ?_
  refine KeepsRecords.bind ?_ fun _ => keepsRecords_pure _
  unfold notifyDisabled
  split
  · exact keepsRecords_createForUsers _ _ _ _ _ _
  · exact keepsRecords_pure ()

theorem audited_resendInvite {opens : Auth.OwnerAccessGrant → Prop} (actorUserId : Option Id)
    (orgId ownerId grantId : Id) :
    Ensures (Audited opens (recordsOf db)) (resendInvite env actorUserId orgId ownerId grantId)
      db := by
  refine ensures_read (Audited.refl _) fun owner howner => ?_
  refine ensures_read (Audited.refl _) fun grant hgrant => ?_
  have hmem := (findGrant_ok hgrant).1
  split
  · next hactive =>
    refine ensures_read (Audited.refl _) fun userId _ => ?_
    refine ensures_read (Audited.refl _) fun user _ => ?_
    refine ensures_read (Audited.refl _) fun _ _ => ?_
    refine ensures_createAudit fun db' hdb' => ?_
    refine KeepsRecords.ensures (KeepsRecords.bind ?_ fun _ => keepsRecords_pure _) ?_
    · exact keepsRecords_requestPasswordReset env _ _ _
    · rw [hdb']
      have hstatus : grantTrail.status grant = .ACTIVE := hactive
      refine Audited.of_grants_eq rfl rfl (Trail.recorded_confirm hmem rfl ?_ hstatus.symm)
      rw [hstatus]
      rfl
  · refine ensures_read (Audited.refl _) fun _ hpending => ?_
    refine ensures_read (Audited.refl _) fun inviteEmail _ => ?_
    have hstatus : grant.status = .PENDING := by simpa using Outcome.throwIf_eq_ok.mp hpending
    refine ensures_updateGrant hmem rfl (congrArg some hstatus.symm) hstatus.symm
      (by simp [hstatus]) (fun h => ?_) ?_
    · change grant.status = .ACTIVE at h
      rw [hstatus] at h
      cases h
    · refine KeepsRecords.bind ?_ fun _ => keepsRecords_pure _
      exact keepsRecords_requestPasswordReset env _ _ _

theorem audited_updateOwner {opens : Auth.OwnerAccessGrant → Prop}
    (user : Option AuthenticatedUser) (ownerId : Id) (dto : UpdateOwnerDto) :
    Ensures (Audited opens (recordsOf db)) (updateOwner user ownerId dto) db := by
  refine ensures_read (Audited.refl _) fun orgId _ => ?_
  refine ensures_read (Audited.refl _) fun existing _ => ?_
  refine ensures_read (Audited.refl _) fun name _ => ?_
  refine ensures_read (Audited.refl _) fun isActive _ => ?_
  refine Ensures.bind (Program.ends_statement (Audited.refl _) fun db' hdb' => ?_) ?_
  · obtain ⟨-, hgrants, hbooks⟩ := Auth.apply_owner.mp hdb'
    have haudits : db'.ownerAccessGrantAudits = db.ownerAccessGrantAudits ++ [] := by
      rw [← hbooks]
      exact (List.append_nil _).symm
    exact Audited.of_grants_eq hgrants haudits Trail.recorded_nil
  · intro _ db' hdb'
    exact KeepsRecords.ensures (keepsRecords_read _) hdb'

theorem audited_resetPassword (token newPassword : String) :
    Ensures (Audited (fun g => RedeemsFor env token db g.ownerId) (recordsOf db))
      (resetPassword env token newPassword) db := by
  refine Ensures.bind (Program.ends_atomically (Audited.refl _) fun changed db' hdb' => ?_) ?_
  · rcases Auth.run_reset_ok hdb' with ⟨-, rfl⟩ | hredeemed
    · exact Audited.refl _
    · obtain ⟨t, u, hfind, hgood, -, hactivates, hdb'⟩ := hredeemed
      have haudits : db'.ownerAccessGrantAudits = db.ownerAccessGrantAudits ++
          (Auth.pendingOwnerGrants t db).map fun p => Auth.activatedAudit env.now p.1 := hdb' ▸ rfl
      refine Audited.changed hactivates.2 haudits ?_ ?_ ?_
      · have hfst : ((Auth.pendingOwnerGrants t db).map fun p => Auth.activatedAudit env.now p.1) =
            (db.books.grants.table.rows.filter (pendingFor t)).map (Auth.activatedAudit env.now) := by
          rw [← Auth.pendingOwnerGrants_fst, List.map_map]
          rfl
        rw [hfst, List.map_map]
        refine List.map_congr_left fun g hg => ?_
        have hstatus := (Auth.pendingFor_eq_true.mp (List.mem_filter.mp hg).2).2.2
        change (g.id, some GrantStatus.PENDING, GrantStatus.ACTIVE) = (g.id, some g.status, _)
        rw [hstatus]
        rfl
      · intro g hg hpending hdisabled
        rw [(Auth.pendingFor_eq_true.mp hpending).2.2] at hdisabled
        cases hdisabled
      · intro g hg hpending _
        refine ⟨?_, rfl, t, u, hfind, hgood, hactivates.noRival, g, hg, hpending, rfl⟩
        change g.userId.isSome = true
        rw [(Auth.pendingFor_eq_true.mp hpending).2.1]
        rfl
  · intro changed db' hdb'
    exact KeepsRecords.ensures (keepsRecords_read _) hdb'

theorem audited_next (l : Env × Operation) (db : Db) :
    Audited (fun g => opensFor l.1 db l.2 g.ownerId) (recordsOf db) (recordsOf (next l db)) := by
  obtain ⟨env, op⟩ := l
  cases op with
  | createPendingInvite actorUserId orgId ownerId email =>
    exact (audited_createPendingInvite actorUserId orgId ownerId email).final
  | linkExistingUser actorUserId orgId ownerId userId =>
    exact (audited_linkExistingUser actorUserId orgId ownerId userId).final
  | activatePendingGrant actorUserId orgId ownerId grantId userId verificationMethod =>
    exact (audited_activatePendingGrant actorUserId orgId ownerId grantId userId
      verificationMethod).final
  | disableGrant actorUserId orgId ownerId grantId verificationMethod =>
    exact (audited_disableGrant actorUserId orgId ownerId grantId verificationMethod).final
  | resendInvite actorUserId orgId ownerId grantId =>
    exact (audited_resendInvite actorUserId orgId ownerId grantId).final
  | requestPasswordReset email purpose issuedByUserId =>
    exact ((keepsRecords_requestPasswordReset env email purpose issuedByUserId).ensures
      (Audited.refl _)).final
  | resetPassword token newPassword => exact (audited_resetPassword token newPassword).final
  | updateOwner user ownerId dto => exact (audited_updateOwner user ownerId dto).final

end Operations

end Towerdesk.Owners
