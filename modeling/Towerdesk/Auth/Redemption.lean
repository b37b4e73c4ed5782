import Towerdesk.Auth.Repo

/-!
# What redeeming a token does

The program of a redemption, run alone: the state it leaves behind, and when it can be run
at all. It fails on nothing but the index that allows an owner one active grant.
-/

namespace Towerdesk.Auth

open Program (Code)

section Activation

/-- The grants a token activates. -/
def pendingFor (token : PasswordResetToken) (g : OwnerAccessGrant) : Bool :=
  token.purpose = .OWNER_INVITE ∧ g.userId = some token.userId ∧ g.status = .PENDING

def activation (now : Date) : Patch OwnerAccessGrant.key where
  apply := updatedGrant now
  key_apply _ := rfl

variable {now : Date} {userId : Id} {token : PasswordResetToken} {db db' : Db}

theorem pendingFor_eq_true {g : OwnerAccessGrant} :
    pendingFor token g = true ↔
      token.purpose = .OWNER_INVITE ∧ g.userId = some token.userId ∧ g.status = .PENDING :=
  decide_eq_true_iff

theorem pendingOwnerGrants_fst (token : PasswordResetToken) (db : Db) :
    (pendingOwnerGrants token db).map Prod.fst =
      db.books.grants.table.rows.filter (pendingFor token) := by
  unfold pendingOwnerGrants
  by_cases hp : token.purpose = .OWNER_INVITE
  · rw [if_pos hp, List.map_filterMap]
    have hsome : ∀ g ∈ db.books.grants.table.rows.filter (pendingFor token),
        Option.map Prod.fst ((db.books.owners.findUnique g.ownerId).map fun owner => (g, owner)) =
          some g := by
      intro g hg
      obtain ⟨owner, howner, hid⟩ := db.books.grant_owner g (List.mem_of_mem_filter hg)
      rw [Table.findUnique_eq_some.mpr ⟨howner, hid⟩]
      rfl
    have hfilter : (db.books.grants.table.rows.filter fun g =>
        decide (g.userId = some token.userId ∧ g.status = .PENDING)) =
          db.books.grants.table.rows.filter (pendingFor token) :=
      List.filter_congr fun g _ => by simp [pendingFor, hp]
    rw [hfilter, List.filterMap_congr hsome, List.filterMap_some]
  · rw [if_neg hp, List.map_nil]
    refine (List.filter_eq_nil_iff.mpr fun g _ hg => ?_).symm
    exact hp (pendingFor_eq_true.mp hg).1

theorem mem_pendingOwnerGrants {pending : OwnerAccessGrant × Owner}
    (h : pending ∈ pendingOwnerGrants token db) :
    pending.1 ∈ db.books.grants ∧ pendingFor token pending.1 = true := by
  have hmem : pending.1 ∈ db.books.grants.table.rows.filter (pendingFor token) := by
    rw [← pendingOwnerGrants_fst]
    exact List.mem_map_of_mem h
  exact List.mem_filter.mp hmem

/-- The grant rows after the loop. -/
def activateRows (now : Date) (pending : List (OwnerAccessGrant × Owner)) (t : GrantTable) :
    GrantTable :=
  pending.foldl (fun t p => t.modify p.1.id (grantActivated now (verificationMethodOf p.1))) t

theorem run_activatePending {pending : OwnerAccessGrant × Owner} {u : Unit} :
    (activatePending now userId pending).run DbWrite.apply db = .ok (u, db') ↔
      ∃ books : OwnerBooks,
        (DbWrite.ownerAccessGrant (.update pending.1.id
          (grantActivated now (verificationMethodOf pending.1)))).apply db =
            .ok { db with books } ∧
        { db with
          books
          ownerAccessGrantAudits := db.ownerAccessGrantAudits ++ [activatedAudit now pending.1]
          notifications := db.notifications ++
            [ownerAccessGranted userId pending.2 pending.1.id] } = db' := by
  simp only [activatePending, Code.run_bind, Code.run_perform]
  constructor
  · rintro ⟨_, db₁, hgrant, _, db₂, haudit, hnotify⟩
    obtain ⟨-, -, hbooks⟩ := apply_ownerAccessGrant.mp hgrant
    refine ⟨db₁.books, hbooks ▸ hgrant, ?_⟩
    obtain rfl := Except.ok.inj haudit
    rw [← Except.ok.inj hnotify, ← hbooks]
    rfl
  · rintro ⟨books, hgrant, rfl⟩
    exact ⟨(), _, hgrant, (), _, rfl, rfl⟩

theorem forM_activatePending {pending : List (OwnerAccessGrant × Owner)} {u : Unit}
    (h : (pending.forM (activatePending now userId)).run DbWrite.apply db = .ok (u, db')) :
    db'.books.owners = db.books.owners ∧
      db'.books.grants.table = activateRows now pending db.books.grants.table ∧
      { db with
        books := db'.books
        ownerAccessGrantAudits := db.ownerAccessGrantAudits ++
          pending.map fun p => activatedAudit now p.1
        notifications := db.notifications ++
          pending.map fun p => ownerAccessGranted userId p.2 p.1.id } = db' := by
  induction pending generalizing db with
  | nil =>
    obtain ⟨-, rfl⟩ := Code.run_pure.mp h
    exact ⟨rfl, rfl, by simp⟩
  | cons p pending ih =>
    obtain ⟨_, db₁, hp, hrest⟩ := Code.run_bind.mp h
    obtain ⟨books, hgrant, rfl⟩ := run_activatePending.mp hp
    obtain ⟨hwrite, howners, -⟩ := apply_ownerAccessGrant.mp hgrant
    obtain ⟨-, htable⟩ := Table.apply_update.mp (Constrained.write_eq_ok.mp hwrite)
    obtain ⟨howners', htable', hdb'⟩ := ih hrest
    refine ⟨howners'.trans howners, ?_, ?_⟩
    · rw [htable']
      change activateRows now pending books.grants.table = _
      rw [htable]
      rfl
    · rw [← hdb']
      simp

theorem nodup_pendingOwnerGrants (token : PasswordResetToken) (db : Db) :
    ((pendingOwnerGrants token db).map fun p => p.1.id).Nodup := by
  have hmap : ((pendingOwnerGrants token db).map fun p => p.1.id) =
      ((pendingOwnerGrants token db).map Prod.fst).map (·.id) := by
    rw [List.map_map]
    rfl
  rw [hmap, pendingOwnerGrants_fst]
  exact db.books.grants.table.nodup.sublist (List.filter_sublist.map _)

/-- One grant after the other, the loop activates exactly the user's pending grants. -/
theorem activateRows_pendingOwnerGrants :
    activateRows now (pendingOwnerGrants token db) db.books.grants.table =
      db.books.grants.table.modifyWhere (pendingFor token) (activation now) := by
  have hfold := Table.foldl_modify (q := activation now)
    (p := fun x => grantActivated now (verificationMethodOf x.1))
    (fun x hx => (mem_pendingOwnerGrants hx).1)
    (nodup_pendingOwnerGrants token db) fun x _ => rfl
  refine hfold.trans (Table.modifyWhere_congr fun g hg => ?_)
  have hids : ((pendingOwnerGrants token db).map fun p => OwnerAccessGrant.key p.1) =
      (db.books.grants.table.rows.filter (pendingFor token)).map OwnerAccessGrant.key := by
    rw [← pendingOwnerGrants_fst, List.map_map]
    rfl
  rw [hids]
  cases hp : pendingFor token g with
  | true =>
    exact decide_eq_true (List.mem_map_of_mem (List.mem_filter.mpr ⟨hg, hp⟩))
  | false =>
    refine decide_eq_false fun hmem => ?_
    obtain ⟨g', hg', hkey⟩ := List.mem_map.mp hmem
    obtain ⟨hg', hp'⟩ := List.mem_filter.mp hg'
    rw [Table.eq_of_key_eq hg' hg hkey, hp] at hp'
    cases hp'

end Activation

section Redeem

def acceptedInvites (now : Date) (token : PasswordResetToken) (db : Db) :
    Table ResidentInvite.tokenHash :=
  if token.purpose = .RESIDENT_INVITE then
    db.residentInvites.modifyWhere (fun i => i.tokenHash = token.tokenHash ∧ i.status = .SENT)
      (inviteAccepted now)
  else db.residentInvites

def activatedProviders (now : Date) (token : PasswordResetToken) (db : Db) :
    Table ServiceProviderAccessGrant.key :=
  if token.purpose = .PROVIDER_INVITE then
    db.serviceProviderAccessGrants.modifyWhere
      (fun g => g.userId = some token.userId ∧ g.status = .PENDING) (providerGrantActivated now)
  else db.serviceProviderAccessGrants

/-- The state a redemption leaves behind, the grants apart. -/
def redeemedWith (now : Date) (passwordHash : String) (token : PasswordResetToken) (db : Db)
    (books : OwnerBooks) : Db where
  users := db.users.modify token.userId (passwordReset passwordHash)
  books
  ownerAccessGrantAudits := db.ownerAccessGrantAudits ++
    (pendingOwnerGrants token db).map fun p => activatedAudit now p.1
  passwordResetTokens := (db.passwordResetTokens.modify token.tokenHash (tokenUsed now)).filter
    fun t => !decide (t.userId = token.userId ∧ t.tokenHash ≠ token.tokenHash)
  residentInvites := acceptedInvites now token db
  serviceProviderAccessGrants := activatedProviders now token db
  notifications := db.notifications ++
    (pendingOwnerGrants token db).map fun p => ownerAccessGranted token.userId p.2 p.1.id

/-- The grants of a token's user, once the pending ones among them are activated. -/
def Activates (now : Date) (token : PasswordResetToken) (books books' : OwnerBooks) : Prop :=
  books'.owners = books.owners ∧
    books'.grants.table = books.grants.table.modifyWhere (pendingFor token) (activation now)

variable {now : Date} {passwordHash : String} {token : PasswordResetToken} {db db' : Db} {b : Bool}

theorem run_acceptResidentInvites {u : Unit} :
    (acceptResidentInvites now token).run DbWrite.apply db = .ok (u, db') ↔
      { db with residentInvites := acceptedInvites now token db } = db' := by
  unfold acceptResidentInvites acceptedInvites
  by_cases hp : token.purpose = .RESIDENT_INVITE
  · simp only [if_pos hp, Code.run_perform, apply_residentInvite, Table.apply_updateMany,
      exists_eq_left]
  · simp only [if_neg hp, Code.run_pure, true_and]

theorem run_activateProviderGrants {u : Unit} :
    (activateProviderGrants now token).run DbWrite.apply db = .ok (u, db') ↔
      { db with serviceProviderAccessGrants := activatedProviders now token db } = db' := by
  unfold activateProviderGrants activatedProviders
  by_cases hp : token.purpose = .PROVIDER_INVITE
  · simp only [if_pos hp, Code.run_perform, apply_serviceProviderAccessGrant,
      Table.apply_updateMany, exists_eq_left]
  · simp only [if_neg hp, Code.run_pure, true_and]

theorem redeem_ok (h : (redeem now passwordHash token).run DbWrite.apply db = .ok (b, db')) :
    b = true ∧ (∃ u ∈ db.users, u.key = token.userId) ∧
      (∃ t ∈ db.passwordResetTokens, t.tokenHash = token.tokenHash) ∧
      Activates now token db.books db'.books ∧
      redeemedWith now passwordHash token db db'.books = db' := by
  simp only [redeem, Code.run_bind, Code.run_perform, Code.run_pure, Code.run_query,
    run_acceptResidentInvites, run_activateProviderGrants] at h
  obtain ⟨_, db₁, hreset, _, db₂, hused, _, db₃, rfl, pending, db₄, ⟨hpending, rfl⟩, _, db₅, hloop,
    _, db₆, rfl, _, db₇, hdelete, rfl, rfl⟩ := h
  obtain ⟨users, hwrite, rfl⟩ := apply_user.mp hreset
  obtain ⟨huser, rfl⟩ := Table.apply_update.mp hwrite
  obtain ⟨tokens, hwrite, rfl⟩ := apply_passwordResetToken.mp hused
  obtain ⟨htoken, rfl⟩ := Table.apply_update.mp hwrite
  obtain rfl : pendingOwnerGrants token db = pending := hpending
  obtain ⟨howners, htable, hdb₅⟩ := forM_activatePending hloop
  obtain rfl := Except.ok.inj hdelete
  refine ⟨rfl, huser, htoken, ⟨howners, htable.trans activateRows_pendingOwnerGrants⟩, ?_⟩
  rw [← hdb₅]
  rfl

end Redeem

section Possible

/-- No grant the token would activate belongs to an owner who has an active grant. -/
def NoRival (token : PasswordResetToken) (books : OwnerBooks) : Prop :=
  ∀ g ∈ books.grants, pendingFor token g = true →
    ∀ h ∈ books.grants, h.status = .ACTIVE → h.ownerId ≠ g.ownerId

variable {now : Date} {passwordHash : String} {userId : Id} {token : PasswordResetToken}
  {db db' : Db}

theorem exists_updateGrant {g : OwnerAccessGrant} {p : Patch OwnerAccessGrant.key}
    (hg : g ∈ db.books.grants) (howner : (p.apply g).ownerId = g.ownerId)
    (hcheck : grantCheck (db.books.grants.table.modify g.key p) = none) :
    ∃ books : OwnerBooks, books.owners = db.books.owners ∧
      books.grants.table = db.books.grants.table.modify g.key p ∧
      (DbWrite.ownerAccessGrant (.update g.key p)).apply db = .ok { db with books } := by
  have hfkey : ∀ h ∈ db.books.grants.table.modify g.key p,
      ∃ o ∈ db.books.owners, o.id = h.ownerId := by
    intro h hh
    rcases (Table.mem_modify_iff hg).mp hh with rfl | ⟨hh, -⟩
    · rw [howner]
      exact db.books.grant_owner g hg
    · exact db.books.grant_owner h hh
  refine ⟨⟨db.books.owners, ⟨_, hcheck⟩, hfkey⟩, rfl, rfl, ?_⟩
  refine apply_ownerAccessGrant.mpr ⟨Constrained.write_eq_ok.mpr ?_, rfl, rfl⟩
  exact Table.apply_update.mpr ⟨⟨g, hg, rfl⟩, rfl⟩

theorem grantCheck_activate {g : OwnerAccessGrant} {verificationMethod : Option String}
    (hg : g ∈ db.books.grants) (hpending : g.status = .PENDING)
    (hrival : ∀ h ∈ db.books.grants, h.status = .ACTIVE → h.ownerId ≠ g.ownerId) :
    grantCheck (db.books.grants.table.modify g.key (grantActivated now verificationMethod)) =
      none := by
  have hactive : ∀ h ∈ db.books.grants, activeOwner h ≠ some g.ownerId := by
    intro h hh heq
    unfold activeOwner at heq
    split at heq
    · next ha => exact hrival h hh ha (Option.some.inj heq)
    · cases heq
  refine grantCheck_eq_none.mpr ⟨?_, ?_, ?_⟩
  · exact db.books.grants.active_unique.modify hg fun h hh _ => .inr (hactive h hh)
  · refine db.books.grants.open_user_unique.modify_of_le hg (.inr ?_)
    simp [openUserOwner, grantActivated, hpending]
  · exact db.books.grants.open_email_unique.modify_of_le hg (.inl rfl)

theorem exists_forM_activatePending {pending : List (OwnerAccessGrant × Owner)}
    (hmem : ∀ p ∈ pending, p.1 ∈ db.books.grants ∧ p.1.status = .PENDING)
    (hids : pending.Pairwise fun p q => p.1.id ≠ q.1.id)
    (howners : pending.Pairwise fun p q => p.1.ownerId ≠ q.1.ownerId)
    (hrival : ∀ p ∈ pending, ∀ h ∈ db.books.grants, h.status = .ACTIVE →
      h.ownerId ≠ p.1.ownerId) :
    ∃ db', (pending.forM (activatePending now userId)).run DbWrite.apply db = .ok ((), db') := by
  induction pending generalizing db with
  | nil => exact ⟨db, rfl⟩
  | cons p pending ih =>
    obtain ⟨hids, hids'⟩ := List.pairwise_cons.mp hids
    obtain ⟨howners, howners'⟩ := List.pairwise_cons.mp howners
    obtain ⟨hp, hpending⟩ := hmem p List.mem_cons_self
    obtain ⟨books, -, htable, hwrite⟩ := exists_updateGrant hp rfl
      (grantCheck_activate hp hpending (hrival p List.mem_cons_self))
    have hbooks : ∀ h, h ∈ books.grants ↔ h ∈ db.books.grants.table.modify p.1.key
        (grantActivated now (verificationMethodOf p.1)) := by
      intro h
      rw [Constrained.mem_table, htable]
    obtain ⟨db', hrest⟩ : ∃ db', (pending.forM (activatePending now userId)).run DbWrite.apply
        { db with
          books
          ownerAccessGrantAudits := db.ownerAccessGrantAudits ++ [activatedAudit now p.1]
          notifications := db.notifications ++ [ownerAccessGranted userId p.2 p.1.id] } =
            .ok ((), db') := by
      refine ih (fun q hq => ?_) hids' howners' fun q hq h hh hactive => ?_
      · obtain ⟨hq', hqp⟩ := hmem q (List.mem_cons_of_mem p hq)
        exact ⟨(hbooks q.1).mpr (Table.mem_modify_of_ne hq' (Ne.symm (hids q hq))), hqp⟩
      · rcases (Table.mem_modify_iff hp).mp ((hbooks h).mp hh) with rfl | ⟨hh, -⟩
        · exact howners q hq
        · exact hrival q (List.mem_cons_of_mem p hq) h hh hactive
    exact ⟨db', Code.run_bind.mpr ⟨(), _, run_activatePending.mpr ⟨books, hwrite, rfl⟩, hrest⟩⟩

theorem pairwise_owners (token : PasswordResetToken) (db : Db) :
    (pendingOwnerGrants token db).Pairwise fun p q => p.1.ownerId ≠ q.1.ownerId := by
  have hids := List.pairwise_map.mp (nodup_pendingOwnerGrants token db)
  refine hids.imp_of_mem fun {p q} hp hq hne howner => hne ?_
  obtain ⟨hp, hpending⟩ := mem_pendingOwnerGrants hp
  obtain ⟨hq, hqending⟩ := mem_pendingOwnerGrants hq
  obtain ⟨-, hpu, hps⟩ := pendingFor_eq_true.mp hpending
  obtain ⟨-, hqu, hqs⟩ := pendingFor_eq_true.mp hqending
  rw [Grants.eq_of_open hp hq (by simp [hps]) (by simp [hqs]) hpu hqu howner]

theorem Activates.noRival {books books' : OwnerBooks} (h : Activates now token books books') :
    NoRival token books := by
  intro g hg hpending rival hrival hactive howner
  have hmem : ∀ x, x ∈ books'.grants ↔
      x ∈ books.grants.table.modifyWhere (pendingFor token) (activation now) := by
    intro x
    rw [Constrained.mem_table, h.2]
  have hg' : updatedGrant now g ∈ books'.grants :=
    (hmem _).mpr (Table.mem_modifyWhere.mpr (.inl ⟨g, hg, hpending, rfl⟩))
  have hnot : pendingFor token rival = false := by simp [pendingFor, hactive]
  have hrival' : rival ∈ books'.grants :=
    (hmem _).mpr (Table.mem_modifyWhere.mpr (.inr ⟨hrival, hnot⟩))
  have heq := Grants.eq_of_active hrival' hg' hactive rfl howner
  have hkey : rival.key = g.key := by
    rw [heq]
    rfl
  have hsame : rival = g := Table.eq_of_key_eq hrival hg hkey
  rw [hsame, hpending] at hnot
  cases hnot

/-- A redemption can be run exactly when the user and the token are there and no owner would
get a second active grant. -/
theorem exists_redeem_iff :
    (∃ b db', (redeem now passwordHash token).run DbWrite.apply db = .ok (b, db')) ↔
      (∃ u ∈ db.users, u.key = token.userId) ∧
        (∃ t ∈ db.passwordResetTokens, t.tokenHash = token.tokenHash) ∧
          NoRival token db.books := by
  constructor
  · rintro ⟨b, db', h⟩
    obtain ⟨-, huser, htoken, hactivates, -⟩ := redeem_ok h
    exact ⟨huser, htoken, hactivates.noRival⟩
  · rintro ⟨huser, htoken, hrival⟩
    let db₂ : Db := { db with
      users := db.users.modify token.userId (passwordReset passwordHash)
      passwordResetTokens := db.passwordResetTokens.modify token.tokenHash (tokenUsed now)
      residentInvites := acceptedInvites now token db }
    obtain ⟨db', hloop⟩ : ∃ db', ((pendingOwnerGrants token db).forM
        (activatePending now token.userId)).run DbWrite.apply db₂ = .ok ((), db') := by
      refine exists_forM_activatePending (fun p hp => ?_)
        (List.pairwise_map.mp (nodup_pendingOwnerGrants token db)) (pairwise_owners token db)
        fun p hp => hrival p.1 (mem_pendingOwnerGrants hp).1 (mem_pendingOwnerGrants hp).2
      exact (mem_pendingOwnerGrants hp).imp_right fun h => (pendingFor_eq_true.mp h).2.2
    simp only [redeem, Code.run_bind, Code.run_perform, Code.run_pure, Code.run_query,
      run_acceptResidentInvites, run_activateProviderGrants]
    refine ⟨true, _, (), _, apply_user.mpr ⟨_, Table.apply_update.mpr ⟨huser, rfl⟩, rfl⟩, (), _,
      apply_passwordResetToken.mpr ⟨_, Table.apply_update.mpr ⟨htoken, rfl⟩, rfl⟩, (), _, rfl,
      _, _, ⟨rfl, rfl⟩, (), db', hloop, (), _, rfl, (), _, rfl, rfl, rfl⟩

end Possible

section Reset

variable {now : Date} {tokenHash passwordHash : String} {token : PasswordResetToken} {user : User}
  {db db' : Db} {b : Bool}

theorem findTokenWithUser_eq_some :
    findTokenWithUser tokenHash db = some (token, user) ↔
      token ∈ db.passwordResetTokens ∧ token.tokenHash = tokenHash ∧
        user ∈ db.users ∧ user.key = token.userId := by
  simp only [findTokenWithUser, Option.bind_eq_bind, Option.bind_eq_some_iff, Option.pure_def,
    Option.some.injEq, Prod.mk.injEq, Table.findUnique_eq_some]
  constructor
  · rintro ⟨t, ⟨ht, hhash⟩, u, ⟨hu, hid⟩, rfl, rfl⟩
    exact ⟨ht, hhash, hu, hid⟩
  · rintro ⟨ht, hhash, hu, hid⟩
    exact ⟨token, ⟨ht, hhash⟩, user, ⟨hu, hid⟩, rfl, rfl⟩

theorem redeemable_eq_true :
    redeemable now token user = true ↔
      token.usedAt = none ∧ now < token.expiresAt ∧ user.isActive = true := by
  simp [redeemable, and_assoc]

theorem resetPasswordByToken_eq :
    resetPasswordByToken now tokenHash passwordHash = .read fun db =>
      match findTokenWithUser tokenHash db with
      | none => .done false
      | some (token, user) =>
        if redeemable now token user then redeem now passwordHash token else .done false :=
  rfl

theorem run_reset_of_redeemable (hfind : findTokenWithUser tokenHash db = some (token, user))
    (hgood : redeemable now token user = true) :
    (resetPasswordByToken now tokenHash passwordHash).run DbWrite.apply db =
      (redeem now passwordHash token).run DbWrite.apply db := by
  simp only [resetPasswordByToken_eq, Code.run, hfind, hgood, if_true]

theorem run_reset_ok
    (h : (resetPasswordByToken now tokenHash passwordHash).run DbWrite.apply db = .ok (b, db')) :
    (b = false ∧ db' = db) ∨
      ∃ token user, findTokenWithUser tokenHash db = some (token, user) ∧
        redeemable now token user = true ∧ b = true ∧
          Activates now token db.books db'.books ∧
            redeemedWith now passwordHash token db db'.books = db' := by
  simp only [resetPasswordByToken_eq, Code.run] at h
  split at h
  · exact .inl ⟨(Prod.mk.inj (Except.ok.inj h)).1.symm, (Prod.mk.inj (Except.ok.inj h)).2.symm⟩
  · next token user hfind =>
    split at h
    · next hgood =>
      obtain ⟨rfl, -, -, hactivates, hdb'⟩ := redeem_ok h
      exact .inr ⟨token, user, hfind, hgood, rfl, hactivates, hdb'⟩
    · exact .inl ⟨(Prod.mk.inj (Except.ok.inj h)).1.symm, (Prod.mk.inj (Except.ok.inj h)).2.symm⟩

end Reset

end Towerdesk.Auth
