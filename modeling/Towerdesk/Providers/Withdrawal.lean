import Towerdesk.Providers.Acceptance

/-!
# An invitation that is withdrawn

The administrator of a provider is invited, and the grant is disabled before the invitation is
accepted. Whoever was invited is left behind the disabled grant: they have the access they had,
less that to the provider. So access is as it was exactly when the user had none to it.
-/

namespace Towerdesk.Providers

open Auth (Env normalizeEmail findByEmailInsensitive)
open Transaction (Ends final)

section Standing

variable {s : Standing} {providerId userId : Id} {grant : ServiceProviderAccessGrant}

def invitedTo (s : Standing) (providerId userId : Id) (grant : ServiceProviderAccessGrant) :
    Standing :=
  (Move.openGrant grant).apply ((Move.setMember providerId userId .ADMIN true).apply s)

theorem grants_invitedTo : (invitedTo s providerId userId grant).grants = s.grants ++ [grant] := rfl

theorem blocked_withdrawn (hprovider : grant.serviceProviderId = providerId)
    (huser : grant.userId = some userId) (hopen : s.openGrants providerId = []) :
    ((Move.disable grant.id).apply (invitedTo s providerId userId grant)).Blocked providerId
      userId := by
  have hgrant : grant ∈ (invitedTo s providerId userId grant).grants := by
    rw [grants_invitedTo]
    exact List.mem_concat_self
  refine (blocked_disable hgrant rfl hprovider huser).mpr ?_
  rintro ⟨g, hg, hp, -, hactive, hne⟩
  rw [grants_invitedTo, List.mem_append, List.mem_singleton] at hg
  obtain hg | rfl := hg
  · have hclosed := List.filter_eq_nil_iff.mp hopen g hg
    simp [hp, hactive] at hclosed
  · exact hne rfl

theorem blocked_withdrawn_of_ne {p : Id} (hp : p ≠ providerId)
    (hprovider : grant.serviceProviderId = providerId)
    (hfresh : ∀ g ∈ s.grants, g.id ≠ grant.id) :
    ((Move.disable grant.id).apply (invitedTo s providerId userId grant)).Blocked p userId ↔
      s.Blocked p userId := by
  have hother : ¬ (grant.serviceProviderId = p ∧ grant.userId = some userId) :=
    fun h => hp (h.1.symm.trans hprovider)
  have hdisable : ((Move.disable grant.id).apply (invitedTo s providerId userId grant)).Blocked p
      userId ↔ (invitedTo s providerId userId grant).Blocked p userId := by
    refine blocked_disable_of_none fun g hg hid => ?_
    rw [grants_invitedTo, List.mem_append, List.mem_singleton] at hg
    obtain hg | rfl := hg
    · exact absurd hid (hfresh g hg)
    · exact hother
  exact hdisable.trans (blocked_openGrant_of_ne hother)

theorem letsIn_withdrawn {p : Id} {role : ServiceProviderUserRole}
    (hprovider : grant.serviceProviderId = providerId) (huser : grant.userId = some userId)
    (hopen : s.openGrants providerId = []) (hfresh : ∀ g ∈ s.grants, g.id ≠ grant.id) :
    ((Move.disable grant.id).apply (invitedTo s providerId userId grant)).LetsIn p userId role ↔
      p ≠ providerId ∧ s.LetsIn p userId role := by
  by_cases hp : p = providerId
  · subst hp
    refine iff_of_false (fun h => h.2 (blocked_withdrawn hprovider huser hopen)) ?_
    exact fun h => h.1 rfl
  · have hmembership : ((Move.disable grant.id).apply (invitedTo s providerId userId
        grant)).membership p userId = s.membership p userId := by
      change ((Move.setMember providerId userId .ADMIN true).apply s).membership p userId = _
      rw [membership_setMember, if_neg fun h => hp h.1]
    rw [Standing.LetsIn, hmembership, blocked_withdrawn_of_ne hp hprovider hfresh]
    exact (and_iff_right hp).symm

end Standing

section Calls

variable {env : Env} {input : GrantInput} {email : String} {db db' : Db} {user : Auth.User}

/-- The standing of users once the invitation is out. -/
def invitedStanding (env : Env) (input : GrantInput) (email : String) (user : Auth.User) (db : Db) :
    Standing :=
  invitedTo (standing db) input.providerId user.id
    (pendingGrant env input.providerId user.id (normalizeEmail env email)).toServiceProviderAccessGrant

/-- What is known of an invitation that opened its grant. -/
structure Invited (env : Env) (input : GrantInput) (email : String) (user : Auth.User)
    (db db' : Db) : Prop where
  userActive : user.isActive = true
  noneOpen : (standing db).openGrants input.providerId = []
  standing_eq : standing db' = invitedStanding env input email user db

theorem userActive_of_found {email : String}
    (hfound : findByEmailInsensitive env email db.accounts = some user) :
    (standing db).userActive user.id = user.isActive := by
  have hunique : db.accounts.users.findUnique user.id = some user :=
    Table.findUnique_eq_some.mpr ⟨(Table.findFirst_some hfound).1, rfl⟩
  simp only [standing, hunique, Option.any_some]

theorem error_state_of_whole {α : Type} {w : Statement α} (hwhole : Whole w) {e : HttpException}
    (h : w db = .error e db') : db' = db := by
  obtain ⟨e', herror⟩ | ⟨a, db'', hok⟩ := hwhole db
  · cases h.symm.trans herror
    rfl
  · cases h.symm.trans hok

theorem standing_final_requestPasswordReset {email : String} {issuedByUserId : Id} :
    standing (final ((requestPasswordReset env email issuedByUserId).run db)) = standing db :=
  Script.final_run_of_always (R := fun db db' => standing db' = standing db) (fun _ => rfl)
    (fun _ _ _ h h' => h'.trans h) keepsStanding_requestPasswordReset db

theorem createPendingInvite_ends
    (hfound : findByEmailInsensitive env (normalizeEmail env email) db.accounts = some user) :
    Ends (fun db' => (standing db').grants = (standing db).grants ∨
        Invited env input email user db db')
      (fun _ db' => Invited env input email user db db')
      ((createPendingInvite env input email).run db) := by
  refine Script.ends_query_bind (.inl rfl) fun provider hprovider => ?_
  obtain ⟨-, hid⟩ := Table.findUnique_eq_some.mp (Outcome.orThrow_eq_ok.mp hprovider)
  change provider.id = input.providerId at hid
  refine Script.ends_query_bind (.inl rfl) fun count hcount => ?_
  obtain rfl := Except.ok.inj hcount
  refine Script.ends_throwIf_bind (.inl rfl) fun hopen => ?_
  refine Script.ends_query_bind (.inl rfl) fun found hread => ?_
  obtain rfl : found = some user := (Except.ok.inj hread).symm.trans hfound
  rw [invitedUser, Script.bind_bind]
  refine Script.ends_throwIf_bind (.inl rfl) fun hactive => ?_
  rw [Script.bind_bind]
  refine Script.ends_throwIf_bind (.inl rfl) fun _ => ?_
  rw [hid] at hopen ⊢
  have hmember : ∀ a db₁, upsertMembership input.providerId user.id .ADMIN true db = .ok a db₁ →
      standing db₁ = (Move.setMember input.providerId user.id .ADMIN true).apply (standing db) :=
    fun _ _ h => standing_upsertMembership h
  refine Script.ends_atomic_bind (fun e db₁ h => ?_) fun _ db₁ hupsert => ?_
  · rw [error_state_of_whole whole_upsertMembership h]
    exact .inl rfl
  refine Script.ends_atomic_bind (fun e db₂ h => ?_) fun grant db₂ hcreate => ?_
  · rw [error_state_of_whole whole_createAccessGrant h, hmember _ _ hupsert]
    exact .inl rfl
  have hinvited (db' : Db) (h : standing db' = standing db₂) :
      Invited env input email user db db' := by
    refine ⟨by simpa using hactive, ?_, ?_⟩
    · rw [countOpenAccessGrants_eq] at hopen
      exact List.eq_nil_of_length_eq_zero (Nat.eq_zero_of_not_pos hopen)
    · rw [h, standing_createAccessGrant hcreate, hmember _ _ hupsert]
      rfl
  rw [Script.run_bind]
  have hkeeps : Ends (fun db' => standing db' = standing db₂) (fun _ db' => standing db' = standing db₂)
      ((requestPasswordReset env (normalizeEmail env email) input.actorUserId).run db₂) :=
    Transaction.ends_of_final standing_final_requestPasswordReset
  refine Transaction.ends_bind (hkeeps.imp (fun db' h => ?_) fun _ _ h => h) fun _ db' h => ?_
  · exact .inr (hinvited db' h)
  · exact hinvited db' h

theorem disableGrant_ok {grantId : Id} {verificationMethod : Option String} {u : Unit}
    (h : (disableGrant env input grantId verificationMethod).run db = .ok u db') :
    standing db' = (Move.disable grantId).apply (standing db) := by
  have hends : Ends (fun _ => True)
      (fun _ db' => standing db' = (Move.disable grantId).apply (standing db))
      ((disableGrant env input grantId verificationMethod).run db) := by
    refine Script.ends_query_bind trivial fun provider _ => ?_
    refine Script.ends_query_bind trivial fun grant hgrant => ?_
    refine Script.ends_throwIf_bind trivial fun _ => Script.ends_atomic ?_
    obtain ⟨-, hfound⟩ := Table.findFirst_some (Outcome.orThrow_eq_ok.mp hgrant)
    obtain ⟨rfl, -⟩ := of_decide_eq_true hfound
    cases hupdate : updateAccessGrant grant.id (some input.actorUserId) (grantDisabled env.now
        input.actorUserId (verificationMethod.or grant.verificationMethod)) db with
    | error e db'' => trivial
    | ok u db'' => exact standing_disable hupdate
  rw [h] at hends
  exact hends

end Calls

section Claims

/-- The same providers, in the same roles. -/
def SameAccess (db db' : Db) (userId : Id) : Prop := ∀ providerId role,
  (∃ m ∈ listAccessibleMemberships db' userId, m.serviceProviderId = providerId ∧ m.role = role) ↔
    ∃ m ∈ listAccessibleMemberships db userId, m.serviceProviderId = providerId ∧ m.role = role

/-- The grant the invitation would open is there after the call, and was not before. -/
def OpensGrant (env : Env) (input : GrantInput) (email : String) (db db' : Db) : Prop :=
  final ((createPendingInvite env input email).run db) = db' ∧
    (∀ g ∈ db.accounts.serviceProviderAccessGrants, g.id ≠ env.ids.grant) ∧
      ∃ g ∈ db'.accounts.serviceProviderAccessGrants, g.id = env.ids.grant

/-- An active member of an active provider that never gave them a grant. -/
def MemberWithoutGrants (db : Db) (providerId userId : Id) : Prop :=
  (∃ m ∈ db.memberships, m.serviceProviderId = providerId ∧ m.userId = userId ∧
      m.isActive = true) ∧
    (db.providers.findUnique providerId).any (·.isActive) = true ∧
      ∀ g ∈ db.accounts.serviceProviderAccessGrants,
        ¬ (g.serviceProviderId = providerId ∧ g.userId = some userId)

variable {env env' : Env} {input input' : GrantInput} {email : String}
  {verificationMethod : Option String} {db db₁ db₂ : Db} {user : Auth.User}

theorem invited_of_opensGrant
    (hfound : findByEmailInsensitive env (normalizeEmail env email) db.accounts = some user)
    (h : OpensGrant env input email db db₁) : Invited env input email user db db₁ := by
  obtain ⟨rfl, hfresh, hthere⟩ := h
  have hends : Ends (fun db' => (standing db').grants = (standing db).grants ∨
      Invited env input email user db db') (fun _ db' =>
        (standing db').grants = (standing db).grants ∨ Invited env input email user db db')
      ((createPendingInvite env input email).run db) :=
    (createPendingInvite_ends hfound).imp (fun _ h => h) fun _ _ h => .inr h
  obtain hsame | hinvited := hends.final
  · obtain ⟨g, hg, hid⟩ := (exists_grant (P := fun g => g.id = env.ids.grant)).mpr hthere
    rw [hsame] at hg
    obtain ⟨g', hg', hid'⟩ := (exists_grant (P := fun g => g.id = env.ids.grant)).mp ⟨g, hg, hid⟩
    exact absurd hid' (hfresh g' hg')
  · exact hinvited

theorem exists_letsIn_iff {providerId userId : Id}
    (hactive : (standing db).userActive userId = true)
    (hopen : (standing db).openGrants providerId = []) :
    (∃ role, (standing db).LetsIn providerId userId role) ↔
      MemberWithoutGrants db providerId userId := by
  have hblocked : (standing db).Blocked providerId userId ↔
      ∃ g ∈ db.accounts.serviceProviderAccessGrants,
        g.serviceProviderId = providerId ∧ g.userId = some userId := by
    have hnone (g : ServiceProviderAccessGrant) (hg : g ∈ (standing db).grants)
        (hp : g.serviceProviderId = providerId) : g.status ≠ .ACTIVE := by
      have hclosed := List.filter_eq_nil_iff.mp hopen g hg
      rintro hstatus
      simp [hp, hstatus] at hclosed
    rw [Standing.Blocked, exists_grant (P := fun g => g.serviceProviderId = providerId ∧
      g.userId = some userId)]
    exact and_iff_left fun g hg hp _ => hnone g hg hp
  simp only [Standing.LetsIn, hblocked, membership_eq_some, MemberWithoutGrants]
  constructor
  · rintro ⟨role, ⟨hm, -, hprovider⟩, hfree⟩
    exact ⟨⟨_, hm, rfl, rfl, rfl⟩, hprovider, fun g hg hpair => hfree ⟨g, hg, hpair⟩⟩
  · rintro ⟨⟨⟨p, u, role, a⟩, hm, rfl, rfl, rfl⟩, hprovider, hfree⟩
    refine ⟨role, ⟨hm, hactive, hprovider⟩, ?_⟩
    rintro ⟨g, hg, hpair⟩
    exact hfree g hg hpair

theorem withdrawn_invite_iff
    (hfound : findByEmailInsensitive env (normalizeEmail env email) db.accounts = some user)
    (hinvite : OpensGrant env input email db db₁)
    (hdisable : (disableGrant env' input' env.ids.grant verificationMethod).run db₁ = .ok () db₂) :
    SameAccess db db₂ user.id ↔ ¬ MemberWithoutGrants db input.providerId user.id := by
  obtain ⟨hactive, hopen, hinvited⟩ := invited_of_opensGrant hfound hinvite
  have hfresh : ∀ g ∈ (standing db).grants, g.id ≠ env.ids.grant := by
    intro g hg hid
    obtain ⟨g', hg', hid'⟩ := (exists_grant (P := fun g => g.id = env.ids.grant)).mp ⟨g, hg, hid⟩
    exact hinvite.2.1 g' hg' hid'
  have hafter (p : Id) (role : ServiceProviderUserRole) : (standing db₂).LetsIn p user.id role ↔
      p ≠ input.providerId ∧ (standing db).LetsIn p user.id role := by
    rw [disableGrant_ok hdisable, hinvited]
    exact letsIn_withdrawn rfl rfl hopen hfresh
  rw [← exists_letsIn_iff ((userActive_of_found hfound).trans hactive) hopen]
  simp only [SameAccess, exists_accessible, hafter]
  constructor
  · rintro hsame ⟨role, hlet⟩
    exact ((hsame _ role).mpr hlet).1 rfl
  · intro hnone p role
    refine and_iff_right_of_imp fun hlet hp => hnone ⟨role, ?_⟩
    rwa [hp] at hlet

end Claims

section Scene

def fitter : Auth.User where
  id := "fitter"
  email := "fitter@example.com"
  name := some "Fitter"
  phone := none
  orgId := none
  isActive := true
  passwordHash := "hash"
  refreshTokenHash := none
  mustChangePassword := false

/-- The plumber has a worker, who was never given a grant. -/
def staffedScene : Db :=
  { providerScene with
    accounts := { providerScene.accounts with users := ⟨[orgManager, fitter], by decide⟩ }
    memberships := ⟨[⟨"provider", "fitter", .WORKER, true⟩], by decide⟩
    member_user := by decide }

def managersInput : GrantInput := ⟨"manager", "org", "provider"⟩

def fitterInvited : Db :=
  final ((createPendingInvite inviteEnv managersInput "fitter@example.com").run staffedScene)

def fitterWithdrawn : Db :=
  final ((disableGrant inviteEnv managersInput "grant" none).run fitterInvited)

theorem fitter_opensGrant :
    OpensGrant inviteEnv managersInput "fitter@example.com" staffedScene fitterInvited := by
  refine ⟨rfl, by decide, ?_⟩
  decide +kernel

theorem eq_ok_final {α : Type} {r : EStateM.Result HttpException Db α} {a : α}
    (h : Script.outcome r = .ok a) : r = .ok a (final r) := by
  cases r with
  | ok b db => rw [Except.ok.inj h]; rfl
  | error e db => cases h

theorem fitter_withdrawn : (disableGrant inviteEnv managersInput "grant" none).run fitterInvited =
    .ok () fitterWithdrawn :=
  eq_ok_final (by decide +kernel)

theorem withdrawn_invite_of_fitter :
    SameAccess staffedScene fitterWithdrawn "fitter" ↔
      ¬ MemberWithoutGrants staffedScene "provider" "fitter" := by
  have hfound : findByEmailInsensitive inviteEnv
      (normalizeEmail inviteEnv "fitter@example.com") staffedScene.accounts = some fitter := by
    decide +kernel
  exact withdrawn_invite_iff hfound fitter_opensGrant fitter_withdrawn

/-- The worker is let in before the invitation, and locked out by its withdrawal. -/
theorem worker_locked_out_by_withdrawal :
    ¬ ∀ (env env' : Env) (input input' : GrantInput) (email : String)
      (verificationMethod : Option String) (db db₁ db₂ : Db) (user : Auth.User),
      findByEmailInsensitive env (normalizeEmail env email) db.accounts = some user →
      OpensGrant env input email db db₁ →
      (disableGrant env' input' env.ids.grant verificationMethod).run db₁ = .ok () db₂ →
        SameAccess db db₂ user.id := by
  intro h
  have hsame := h inviteEnv inviteEnv managersInput managersInput "fitter@example.com" none _ _ _
    fitter (by decide +kernel) fitter_opensGrant fitter_withdrawn
  have hbefore : ∃ m ∈ listAccessibleMemberships staffedScene "fitter",
      m.serviceProviderId = "provider" ∧ m.role = .WORKER := by
    decide +kernel
  obtain ⟨m, hm, -⟩ := (hsame "provider" .WORKER).mpr hbefore
  have hnone : listAccessibleMemberships fitterWithdrawn "fitter" = [] := by
    decide +kernel
  rw [show fitter.id = "fitter" from rfl, hnone] at hm
  exact List.not_mem_nil hm

end Scene

end Towerdesk.Providers
