import Towerdesk.Owners.Operation

/-!
# Runs of grant operations

Over a whole run the audit rows of a grant explain its status. That a grant is opened for an
active owner only, and that a live token can be redeemed, hold as long as the grants a
password reset finds pending allow it.
-/

namespace Towerdesk.Owners

open Auth (Db Env OwnerBooks OwnerAccessGrantAudit pendingFor NoRival findTokenWithUser redeemable
  PasswordResetToken)
open Program (Code)

section History

/-- The rows start from nothing, each from where the one before it ended, and end with
`status`. -/
structure ChainsTo (rows : List OwnerAccessGrantAudit) (status : GrantStatus) : Prop where
  first : rows.head?.map (·.fromStatus) = some none
  linked : rows.IsChain fun a b => b.fromStatus = some a.toStatus
  last : rows.getLast?.map (·.toStatus) = some status

structure GrantsExplained (db : Db) : Prop where
  chained : ∀ g ∈ db.books.grants,
    ChainsTo (db.ownerAccessGrantAudits.filter fun a => a.grantId = g.id) g.status
  one_active : ∀ g ∈ db.books.grants, ∀ h ∈ db.books.grants, g.status = .ACTIVE →
    h.status = .ACTIVE → g.ownerId = h.ownerId → g = h
  active_held : ∀ g ∈ db.books.grants, g.status = .ACTIVE → g.userId.isSome ∧ g.inviteEmail = none

variable {db : Db} {ls : List (Env × Operation)}

theorem chainsTo_of_accounts {rows : List OwnerAccessGrantAudit} {status : GrantStatus}
    (h : Ledger.Accounts OwnerAccessGrantAudit.fromStatus (fun a => some a.toStatus) False none
      rows (some status)) : ChainsTo rows status := by
  have hlast : rows.getLast?.map (·.toStatus) = some status := by
    cases hl : rows.getLast? with
    | none =>
      have hcurrent := h.current
      rw [hl] at hcurrent
      rcases hcurrent with hnone | ⟨hfalse, -⟩
      · cases hnone
      · exact hfalse.elim
    | some a =>
      have hcurrent := h.current
      rw [hl] at hcurrent
      rcases hcurrent with hsome | ⟨hfalse, -⟩
      · exact hsome.symm
      · exact hfalse.elim
  refine ⟨?_, h.chain.imp fun a b hab => hab.resolve_right fun hr => hr.1, hlast⟩
  cases rows with
  | nil => cases hlast
  | cons a rows => exact congrArg some (h.head a rfl)

/-- What every run keeps. -/
structure Kept (db : Db) : Prop where
  explains : grantTrail.Explains db.books.grants.table db.ownerAccessGrantAudits
  active_held : ∀ g ∈ db.books.grants, g.status = .ACTIVE → g.userId.isSome ∧ g.inviteEmail = none

theorem Kept.next (h : Kept db) (l : Env × Operation) : Kept (next l db) := by
  have haudited := audited_next l db
  obtain ⟨rows, hrows, hrecorded⟩ := haudited.recorded
  constructor
  · change (Owners.next l db).ownerAccessGrantAudits = db.ownerAccessGrantAudits ++ rows at hrows
    rw [hrows]
    exact h.explains.append hrecorded
  · intro g hg hactive
    rcases haudited.opened g hg hactive with hold | hnew
    · exact h.active_held g hold hactive
    · exact ⟨hnew.1, hnew.2.1⟩

theorem Kept.explained (h : Kept db) : GrantsExplained db := by
  refine ⟨fun g hg => ?_, fun g hg k hk => Auth.Grants.eq_of_active hg hk, h.active_held⟩
  have haccounts := h.explains g.key
  rw [Trail.statusOf, Table.findUnique_eq_some.mpr ⟨hg, rfl⟩] at haccounts
  exact chainsTo_of_accounts haccounts

theorem kept_empty (hgrants : db.books.grants.table.rows = [])
    (haudits : db.ownerAccessGrantAudits = []) : Kept db := by
  constructor
  · have hempty : db.books.grants.table = .empty _ := Table.eq_of_rows_eq hgrants
    rw [haudits, hempty]
    exact Trail.explains_empty
  · intro g hg
    rw [Constrained.mem_table, Table.mem_rows, hgrants] at hg
    cases hg

theorem disabled_final {g : Auth.OwnerAccessGrant} (hg : g ∈ db.books.grants)
    (hdisabled : g.status = .DISABLED) (ls : List (Env × Operation)) :
    ∃ g' ∈ (Run.exec next db ls).books.grants, g'.id = g.id ∧ g'.status = .DISABLED := by
  refine Run.exec_inv (I := fun s : Db => ∃ g' ∈ s.books.grants, g'.id = g.id ∧
    g'.status = .DISABLED) (fun l db h => ?_) ls ⟨g, hg, rfl, hdisabled⟩
  obtain ⟨g', hg', hid, hdisabled'⟩ := h
  obtain ⟨g'', hg'', hid', hdisabled''⟩ := (audited_next l db).disabled g' hg' hdisabled'
  exact ⟨g'', hg'', hid'.trans hid, hdisabled''⟩

theorem owner_grant_trail_explains (hgrants : db.books.grants.table.rows = [])
    (haudits : db.ownerAccessGrantAudits = []) (ls : List (Env × Operation)) :
    GrantsExplained (Run.exec next db ls) ∧
      ∀ ms, ms <+: ls → ∀ g ∈ (Run.exec next db ms).books.grants, g.status = .DISABLED →
        ∃ g' ∈ (Run.exec next db ls).books.grants, g'.id = g.id ∧ g'.status = .DISABLED := by
  constructor
  · have hkept := Run.exec_inv (I := Kept) (fun l db h => h.next l) ls (kept_empty hgrants haudits)
    exact hkept.explained
  · intro ms hms g hg hdisabled
    obtain ⟨ns, rfl⟩ := hms
    rw [Run.exec_append]
    exact disabled_final hg hdisabled ns

end History

section Opening

/-- The grant is active now and was not before. -/
def BecomesActive (db db' : Db) (g : Auth.OwnerAccessGrant) : Prop :=
  g ∈ db'.books.grants ∧ g.status = .ACTIVE ∧
    ¬ ∃ h ∈ db.books.grants, h.id = g.id ∧ h.status = .ACTIVE

/-- Every reset that redeems finds the owners of the grants it activates active. -/
def PendingOwnersActive : Env × Operation → Db → Prop
  | (env, .resetPassword token _), db =>
    ∀ ownerId, RedeemsFor env token db ownerId → OwnerIsActive db.books ownerId
  | _, _ => True

variable {env : Env} {db : Db} {token : String}

theorem becomesActive_of_redeemsFor {ownerId : Id} (newPassword : String)
    (h : RedeemsFor env token db ownerId) :
    ∃ g, BecomesActive db (next (env, .resetPassword token newPassword) db) g ∧
      g.ownerId = ownerId := by
  obtain ⟨t, u, hfind, hgood, hrival, g, hg, hpending, rfl⟩ := h
  obtain ⟨db', hreset⟩ : ∃ db', Auth.resetPassword env token newPassword db = .ok () db' :=
    (Auth.exists_resetPassword_iff hfind hgood).mpr hrival
  obtain ⟨hactivates, -⟩ := Auth.resetPassword_redeems hfind hgood hreset
  have hnext : next (env, .resetPassword token newPassword) db = db' :=
    congrArg Transaction.final hreset
  refine ⟨Auth.updatedGrant env.now g, ⟨?_, rfl, ?_⟩, rfl⟩
  · rw [hnext, Constrained.mem_table, hactivates.2]
    exact Table.mem_modifyWhere.mpr (.inl ⟨g, hg, hpending, rfl⟩)
  · rintro ⟨h, hh, hid, hactive⟩
    have hsame : h = g := Table.eq_of_key_eq hh hg hid
    rw [hsame, (Auth.pendingFor_eq_true.mp hpending).2.2] at hactive
    cases hactive

theorem opens_for_active_owners_iff (l : Env × Operation) (db : Db) :
    (∀ g, BecomesActive db (next l db) g → OwnerIsActive db.books g.ownerId) ↔
      PendingOwnersActive l db := by
  have hopened : ∀ g, BecomesActive db (next l db) g → opensFor l.1 db l.2 g.ownerId := by
    intro g hg
    obtain ⟨hmem, hactive, hnew⟩ := hg
    rcases (audited_next l db).opened g hmem hactive with hold | hopened
    · exact absurd ⟨g, hold, rfl, hactive⟩ hnew
    · exact hopened.2.2
  obtain ⟨env, op⟩ := l
  cases op with
  | resetPassword token newPassword =>
    constructor
    · intro h ownerId hredeems
      obtain ⟨g, hg, rfl⟩ := becomesActive_of_redeemsFor newPassword hredeems
      exact h g hg
    · exact fun h g hg => h g.ownerId (hopened g hg)
  | _ => exact ⟨fun _ => trivial, fun _ => hopened⟩

theorem owner_access_opened_for_active_owners_iff (db : Db) (ls : List (Env × Operation)) :
    (∀ ms l ns, ls = ms ++ l :: ns →
      ∀ g, BecomesActive (Run.exec next db ms) (Run.exec next db (ms ++ [l])) g →
        OwnerIsActive (Run.exec next db ms).books g.ownerId) ↔
      Run.Along next PendingOwnersActive db ls := by
  constructor
  · intro h
    refine Run.along_of_split fun ms l ns hls => ?_
    have hstep := h ms l ns hls
    rw [Run.exec_concat] at hstep
    exact (opens_for_active_owners_iff l _).mp hstep
  · intro h ms l ns hls
    subst hls
    rw [Run.exec_concat]
    exact (opens_for_active_owners_iff l _).mpr h.at_split.2

end Opening

section Redeeming

variable {env : Env} {db : Db} {token newPassword : String} {t : PasswordResetToken}
  {u : Auth.User}

/-- The reset returns and the user's password is the new one. -/
def SetsPassword (env : Env) (token newPassword : String) (userId : Id) (db : Db) : Prop :=
  ∃ db', Auth.resetPassword env token newPassword db = .ok () db' ∧
    ∃ u ∈ db'.users, u.key = userId ∧ u.passwordHash = env.hashPassword newPassword

theorem setsPassword_iff (ht : t ∈ db.passwordResetTokens)
    (hhash : t.tokenHash = env.hashToken (trimString token)) (hunused : t.usedAt = none)
    (hlive : env.now < t.expiresAt) (hu : u ∈ db.users) (huser : u.key = t.userId)
    (hactive : u.isActive = true) :
    SetsPassword env token newPassword t.userId db ↔ NoRival t db.books := by
  have hfind : findTokenWithUser (env.hashToken (trimString token)) db = some (t, u) :=
    Auth.findTokenWithUser_eq_some.mpr ⟨ht, hhash, hu, huser⟩
  have hgood : redeemable env.now t u = true :=
    Auth.redeemable_eq_true.mpr ⟨hunused, hlive, hactive⟩
  have hreset : (∃ db', Auth.resetPassword env token newPassword db = .ok () db') ↔ _ :=
    Auth.exists_resetPassword_iff hfind hgood
  constructor
  · rintro ⟨db', h, -⟩
    exact hreset.mp ⟨db', h⟩
  · intro hrival
    obtain ⟨db', h⟩ := hreset.mpr hrival
    obtain ⟨-, hdb'⟩ := Auth.resetPassword_redeems hfind hgood h
    refine ⟨db', h, (Auth.passwordReset (env.hashPassword newPassword)).apply u, ?_, huser, rfl⟩
    have hmem := Table.apply_mem_modify (p := Auth.passwordReset (env.hashPassword newPassword)) hu
    rw [huser] at hmem
    rw [← hdb']
    exact hmem

theorem live_token_redeems_iff (db : Db) (ls : List (Env × Operation)) (env : Env)
    (token newPassword : String) :
    let reached := Run.exec next db ls
    ∀ t ∈ reached.passwordResetTokens, t.tokenHash = env.hashToken (trimString token) →
      t.usedAt = none → env.now < t.expiresAt →
        (∃ u ∈ reached.users, u.key = t.userId ∧ u.isActive = true) →
          (SetsPassword env token newPassword t.userId reached ↔ NoRival t reached.books) := by
  intro reached t ht hhash hunused hlive hu
  obtain ⟨u, hu, huser, hactive⟩ := hu
  exact setsPassword_iff ht hhash hunused hlive hu huser hactive

end Redeeming

section Scene

/-- One owner in the organisation, and nobody invited yet. -/
def startDb : Db where
  users := .empty _
  books := {
    owners := ⟨[⟨"owner", "org", "Marina Holdings", true⟩], by decide⟩
    grants := ⟨.empty _, Auth.grantCheck_empty⟩
    grant_owner := by decide }
  ownerAccessGrantAudits := []
  passwordResetTokens := .empty _
  residentInvites := .empty _
  serviceProviderAccessGrants := .empty _
  notifications := []

/-- A call at `now` that draws ids and a token from `name`. -/
def sceneEnv (now : Date) (name : String) : Env where
  now
  ids := ⟨name, "grant of " ++ name, "invite of " ++ name⟩
  token := "token of " ++ name
  temporaryPassword := "temporary"
  hashToken token := "sha256 " ++ token
  hashPassword password := "argon2 " ++ password
  toLowerCase text := text
  passwordResetTtlMinutes := 60
  enqueuePasswordResetEmail _ := .ok ()

def invite (now : Date) (name email : String) : Env × Operation :=
  (sceneEnv now name, .createPendingInvite "manager" "org" "owner" email)

def acceptInvite (now : Date) (name : String) : Env × Operation :=
  (sceneEnv now "later", .resetPassword ("token of " ++ name) "secret")

theorem disabled_grant_explained :
    let ls := [invite 0 "ann" "ann@example.com", acceptInvite 1 "ann",
      (sceneEnv 2 "later", .disableGrant "manager" "org" "owner" "grant of ann" none)]
    (Run.exec next startDb ls).ownerAccessGrantAudits.map (·.toStatus) =
        [.PENDING, .ACTIVE, .DISABLED] ∧
      GrantsExplained (Run.exec next startDb ls) :=
  ⟨by decide +kernel, (owner_grant_trail_explains rfl rfl _).1⟩

theorem invite_redeemed_for_inactive_owner : ¬ ∀ (db : Db) (ls : List (Env × Operation))
    (ms : List (Env × Operation)) (l : Env × Operation) (ns : List (Env × Operation)),
    ls = ms ++ l :: ns → ∀ g, BecomesActive (Run.exec next db ms) (Run.exec next db (ms ++ [l])) g →
      OwnerIsActive (Run.exec next db ms).books g.ownerId := by
  intro h
  let ms := [invite 0 "ann" "ann@example.com",
    (sceneEnv 1 "later", .updateOwner (some ⟨"manager", some "org"⟩) "owner"
      ⟨.undefined, .value false⟩)]
  have hactive := h startDb (ms ++ [acceptInvite 2 "ann"]) ms (acceptInvite 2 "ann") [] rfl
    (activeGrant (sceneEnv 2 "ann") "manager" ⟨"owner", "org", "Marina Holdings", false⟩ "ann"
      "OWNER_INVITE")
    ⟨by decide +kernel, rfl, by decide +kernel⟩
  revert hactive
  unfold OwnerIsActive
  decide +kernel

/-- The token `name` was sent at `sent`. -/
def sentToken (sent : Date) (name : String) : PasswordResetToken where
  tokenHash := "sha256 token of " ++ name
  userId := name
  purpose := .OWNER_INVITE
  expiresAt := sent + 3600000
  usedAt := none

theorem invite_redeems :
    SetsPassword (sceneEnv 1 "later") "token of ann" "secret" "ann"
      (Run.exec next startDb [invite 0 "ann" "ann@example.com"]) :=
  (live_token_redeems_iff startDb [invite 0 "ann" "ann@example.com"] (sceneEnv 1 "later")
    "token of ann" "secret" (sentToken 0 "ann") (by decide +kernel) (by decide +kernel) rfl
    (by decide) (by decide +kernel)).mpr (by unfold NoRival; decide +kernel)

/-- Ann and Bob are invited for one owner, and Bob answers first. -/
theorem second_representative_cannot_redeem : ¬ ∀ (db : Db) (ls : List (Env × Operation))
    (env : Env) (token newPassword : String) (t : PasswordResetToken),
    t ∈ (Run.exec next db ls).passwordResetTokens →
      t.tokenHash = env.hashToken (trimString token) → t.usedAt = none → env.now < t.expiresAt →
        (∃ u ∈ (Run.exec next db ls).users, u.key = t.userId ∧ u.isActive = true) →
          SetsPassword env token newPassword t.userId (Run.exec next db ls) := by
  intro h
  let ls := [invite 0 "ann" "ann@example.com", invite 1 "bob" "bob@example.com",
    acceptInvite 2 "bob"]
  have hsets := h startDb ls (sceneEnv 3 "later") "token of ann" "secret" (sentToken 0 "ann")
    (by decide +kernel) (by decide +kernel) rfl (by decide) (by decide +kernel)
  have hrival := (setsPassword_iff (u := ⟨⟨"ann", "ann@example.com", some "Marina Holdings", none,
    none, true⟩, "argon2 temporary", none, true⟩) (by decide +kernel) (by decide +kernel) rfl
    (by decide) (by decide +kernel) rfl rfl).mp hsets
  revert hrival
  unfold NoRival
  decide +kernel

end Scene

end Towerdesk.Owners
