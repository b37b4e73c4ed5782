import Towerdesk.Lib.Run
import Towerdesk.Residents.InviteList
import Mathlib.Data.List.Induction
import Mathlib.Data.String.Basic

/-!
# Runs of invitations

Tokens are requested, used and fail to be delivered. A user has one token at a time, so an
invite that is still out has its token unless a later request for the user took it away.
-/

namespace Towerdesk.Residents

open Auth (Db DbWrite Env Service ResidentInvite PasswordResetToken requestPasswordReset
  resetPassword markResidentInviteFailed findByEmailInsensitive normalizeEmail)
open Program (Code)
open Transaction (Ends final)

inductive Operation
  | requestPasswordReset (email : String) (purpose : Option Delivery.PasswordResetEmailPurpose)
    (issuedByUserId : Option Id)
  | resetPassword (token newPassword : String)
  | deliveryFailed (tokenHash reason : String)

def call (env : Env) (db : Db) : Operation → Db
  | .requestPasswordReset email purpose issuedByUserId =>
    final (requestPasswordReset env email purpose issuedByUserId db)
  | .resetPassword token newPassword => final (resetPassword env token newPassword db)
  | .deliveryFailed tokenHash reason =>
    final (Auth.perform (markResidentInviteFailed tokenHash reason env.now) db)

def next (l : Env × Operation) (db : Db) : Db := call l.1 db l.2

/-- The operation requests a token for the user. -/
def RequestsFor (userId : Id) : Env × Operation → Db → Prop
  | (env, .requestPasswordReset email _ _), db =>
    ∃ user, findByEmailInsensitive env (normalizeEmail env email) db = some user ∧
      user.isActive = true ∧ user.id = userId
  | _, _ => False

/-- What an operation does to tokens and invites. -/
inductive InviteStep (requests : Id → Prop) (db db' : Db) : Prop
  | unchanged (htokens : db'.passwordResetTokens = db.passwordResetTokens)
    (hinvites : db'.residentInvites = db.residentInvites)
  | requested (t : PasswordResetToken) (hrequests : requests t.userId)
    (htokens : (db.passwordResetTokens.filter fun t' => !decide (t'.userId = t.userId)).insert t =
      some db'.passwordResetTokens)
    (hinvites : db'.residentInvites = db.residentInvites)
  | invited (t : PasswordResetToken) (i : ResidentInvite) (hrequests : requests t.userId)
    (htokens : (db.passwordResetTokens.filter fun t' => !decide (t'.userId = t.userId)).insert t =
      some db'.passwordResetTokens)
    (hinvites : db.residentInvites.insert i = some db'.residentInvites)
    (ht : t.purpose = .RESIDENT_INVITE ∧ t.usedAt = none)
    (hi : i.tokenHash = t.tokenHash ∧ i.userId = t.userId ∧ i.expiresAt = t.expiresAt)
  | redeemed (now : Date) (t : PasswordResetToken) (ht : t ∈ db.passwordResetTokens)
    (htokens : db'.passwordResetTokens =
      (db.passwordResetTokens.modify t.tokenHash (Auth.tokenUsed now)).filter
        fun t' => !decide (t'.userId = t.userId ∧ t'.tokenHash ≠ t.tokenHash))
    (hinvites : db'.residentInvites = Auth.acceptedInvites now t db)
  | failed (q : ResidentInvite → Bool) (p : Patch ResidentInvite.tokenHash)
    (htokens : db'.passwordResetTokens = db.passwordResetTokens)
    (hinvites : db'.residentInvites = db.residentInvites.modifyWhere q p)
    (hp : ∀ i, (p.apply i).status = .FAILED)

section Steps

variable {env : Env} {db : Db} {requests : Id → Prop}

theorem requested_of_run {user : Auth.User} {tokenHash : String} {expiresAt : Date}
    {purpose : Delivery.PasswordResetEmailPurpose} {u : Unit} {db' : Db}
    (h : (Auth.createPasswordResetToken user.id tokenHash expiresAt purpose).run DbWrite.apply db =
      .ok (u, db')) :
    ∃ passwordResetTokens,
      (db.passwordResetTokens.filter fun t => !decide (t.userId = user.id)).insert
        ⟨tokenHash, user.id, purpose, expiresAt, none⟩ = some passwordResetTokens ∧
      db' = { db with passwordResetTokens } := by
  simp only [Auth.createPasswordResetToken, Code.run_bind, Code.run_perform] at h
  obtain ⟨_, db₁, hdelete, hcreate⟩ := h
  obtain ⟨tokens, hwrite, rfl⟩ := Auth.apply_passwordResetToken.mp hcreate
  obtain rfl := Except.ok.inj hdelete
  exact ⟨tokens, Table.apply_create.mp hwrite, rfl⟩

theorem ends_sendToken {user : Auth.User} {purpose : Delivery.PasswordResetEmailPurpose}
    {issuedByUserId : Option Id} (hrequests : requests user.id) :
    Ends (InviteStep requests db) (fun _ => InviteStep requests db)
      (Auth.sendToken env user purpose issuedByUserId db) := by
  refine Transaction.ends_read_bind (.unchanged rfl rfl) fun inviter _ => ?_
  refine Transaction.ends_bind (Program.ends_atomically (.unchanged rfl rfl)
    fun _ db₁ hdb₁ => requested_of_run hdb₁) fun _ db₁ hdb₁ => ?_
  obtain ⟨tokens, htokens, rfl⟩ := hdb₁
  have hrequested : InviteStep requests db { db with passwordResetTokens := tokens } :=
    .requested _ hrequests htokens rfl
  refine Transaction.ends_bind_kept ?_ fun _ db₂ hdb₂ => ?_
  · unfold Auth.inviteResident
    cases truthy user.orgId with
    | none => exact hrequested
    | some orgId =>
      dsimp only
      split
      · next hpurpose =>
        refine Program.ends_statement hrequested fun db₂ hdb₂ => ?_
        obtain ⟨invites, hwrite, rfl⟩ := Auth.apply_residentInvite.mp hdb₂
        exact .invited _ _ hrequests htokens (Table.apply_create.mp hwrite) ⟨hpurpose, rfl⟩
          ⟨rfl, rfl, rfl⟩
      · exact hrequested
  · exact Transaction.ends_read hdb₂ fun _ _ => hdb₂

theorem inviteStep_request (email : String) (purpose : Option Delivery.PasswordResetEmailPurpose)
    (issuedByUserId : Option Id) :
    InviteStep (fun userId => RequestsFor userId
        (env, .requestPasswordReset email purpose issuedByUserId) db) db
      (final (requestPasswordReset env email purpose issuedByUserId db)) := by
  refine Ends.final ?_
  refine Transaction.ends_read_bind (.unchanged rfl rfl) fun user huser => ?_
  cases user with
  | none => exact .unchanged rfl rfl
  | some user =>
    dsimp only
    split
    · next hactive => exact ends_sendToken ⟨user, Except.ok.inj huser, hactive, rfl⟩
    · exact .unchanged rfl rfl

theorem inviteStep_reset (token newPassword : String) :
    InviteStep requests db (final (resetPassword env token newPassword db)) := by
  refine Ends.final ?_
  refine Transaction.ends_bind_kept
    (Program.ends_atomically (.unchanged rfl rfl) fun changed db' hdb' => ?_) ?_
  · rcases Auth.run_reset_ok hdb' with ⟨-, rfl⟩ | hredeemed
    · exact .unchanged rfl rfl
    · obtain ⟨t, u, hfind, -, -, -, hdb'⟩ := hredeemed
      exact .redeemed env.now t (Auth.findTokenWithUser_eq_some.mp hfind).1
        (congrArg Db.passwordResetTokens hdb').symm (congrArg Db.residentInvites hdb').symm
  · intro changed db' hdb'
    exact Transaction.ends_read hdb' fun _ _ => hdb'

theorem inviteStep_failed (tokenHash reason : String) :
    InviteStep requests db
      (final (Auth.perform (markResidentInviteFailed tokenHash reason env.now) db)) := by
  refine Ends.final (Program.ends_statement (.unchanged rfl rfl) fun db' hdb' => ?_)
  obtain ⟨invites, hwrite, rfl⟩ := Auth.apply_residentInvite.mp hdb'
  exact .failed _ _ rfl (Table.apply_updateMany.mp hwrite) fun _ => rfl

theorem inviteStep_next (l : Env × Operation) (db : Db) :
    InviteStep (fun userId => RequestsFor userId l db) db (next l db) := by
  obtain ⟨env, op⟩ := l
  cases op with
  | requestPasswordReset email purpose issuedByUserId =>
    exact inviteStep_request email purpose issuedByUserId
  | resetPassword token newPassword => exact inviteStep_reset token newPassword
  | deliveryFailed tokenHash reason => exact inviteStep_failed tokenHash reason

end Steps

section Invariants

variable {db db' : Db} {requests : Id → Prop} {i j : ResidentInvite} {now : Date}

def OneTokenEach (db : Db) : Prop :=
  ∀ t ∈ db.passwordResetTokens, ∀ t' ∈ db.passwordResetTokens, t.userId = t'.userId → t = t'

/-- The invite's own token is there, and unused. -/
def HasToken (db : Db) (i : ResidentInvite) : Prop :=
  ∃ t ∈ db.passwordResetTokens, t.tokenHash = i.tokenHash ∧ t.userId = i.userId ∧
    t.purpose = .RESIDENT_INVITE ∧ t.usedAt = none ∧ t.expiresAt = i.expiresAt

theorem mem_tokens_requested {t x : PasswordResetToken}
    (htokens : (db.passwordResetTokens.filter fun t' => !decide (t'.userId = t.userId)).insert t =
      some db'.passwordResetTokens) :
    x ∈ db'.passwordResetTokens ↔ (x ∈ db.passwordResetTokens ∧ x.userId ≠ t.userId) ∨ x = t := by
  rw [Table.mem_insert htokens]
  refine or_congr_left ?_
  rw [Table.mem_rows, Table.filter, List.mem_filter]
  simp [Table.mem_rows]

theorem mem_tokens_redeemed {t x : PasswordResetToken} {now : Date}
    (htokens : db'.passwordResetTokens =
      (db.passwordResetTokens.modify t.tokenHash (Auth.tokenUsed now)).filter
        fun t' => !decide (t'.userId = t.userId ∧ t'.tokenHash ≠ t.tokenHash)) :
    x ∈ db'.passwordResetTokens ↔
      x ∈ db.passwordResetTokens.modify t.tokenHash (Auth.tokenUsed now) ∧
        (x.userId = t.userId → x.tokenHash = t.tokenHash) := by
  rw [htokens, Table.mem_rows, Table.filter, List.mem_filter]
  refine and_congr_right fun _ => ?_
  simp [imp_iff_not_or]

theorem oneTokenEach_requested {t : PasswordResetToken} (h : OneTokenEach db)
    (htokens : (db.passwordResetTokens.filter fun t' => !decide (t'.userId = t.userId)).insert t =
      some db'.passwordResetTokens) : OneTokenEach db' := by
  intro x hx y hy hxy
  rcases (mem_tokens_requested htokens).mp hx with ⟨hx, hxt⟩ | rfl
  · rcases (mem_tokens_requested htokens).mp hy with ⟨hy, -⟩ | rfl
    · exact h x hx y hy hxy
    · exact absurd hxy hxt
  · rcases (mem_tokens_requested htokens).mp hy with ⟨-, hyx⟩ | rfl
    · exact absurd hxy.symm hyx
    · rfl

theorem InviteStep.oneTokenEach (hstep : InviteStep requests db db') (h : OneTokenEach db) :
    OneTokenEach db' := by
  cases hstep with
  | unchanged htokens hinvites =>
    unfold OneTokenEach
    rwa [htokens]
  | requested t hrequests htokens hinvites => exact oneTokenEach_requested h htokens
  | invited t i hrequests htokens hinvites ht hi => exact oneTokenEach_requested h htokens
  | redeemed now t ht htokens hinvites =>
    -- a row of the new table is a row of the old one, used or not
    have hold : ∀ x ∈ db.passwordResetTokens.modify t.tokenHash (Auth.tokenUsed now),
        ∃ a ∈ db.passwordResetTokens, a.tokenHash = x.tokenHash ∧ a.userId = x.userId := by
      intro x hx
      rcases Table.mem_modify.mp hx with ⟨a, ha, -, rfl⟩ | ⟨hx, -⟩
      · exact ⟨a, ha, rfl, rfl⟩
      · exact ⟨x, hx, rfl, rfl⟩
    intro x hx y hy hxy
    obtain ⟨hx, -⟩ := (mem_tokens_redeemed htokens).mp hx
    obtain ⟨hy, -⟩ := (mem_tokens_redeemed htokens).mp hy
    obtain ⟨a, ha, hax, hau⟩ := hold x hx
    obtain ⟨b, hb, hby, hbu⟩ := hold y hy
    have hab : a = b := h a ha b hb (by rw [hau, hbu, hxy])
    exact Table.eq_of_key_eq hx hy (by rw [← hax, ← hby, hab])
  | failed q p htokens hinvites hp =>
    unfold OneTokenEach
    rwa [htokens]

/-- An invite that is still out has its token after a step, unless it was out before and its
token was gone or is requested anew. -/
theorem InviteStep.hasToken (hstep : InviteStep requests db db') (h : OneTokenEach db)
    (hi : i ∈ db'.residentInvites) (hsent : i.status = .SENT) :
    HasToken db' i ∨ (i ∈ db.residentInvites ∧ (HasToken db i → requests i.userId)) := by
  -- the token of another user stays
  have hother : ∀ t : PasswordResetToken, (∀ x, x ∈ db'.passwordResetTokens ↔
      (x ∈ db.passwordResetTokens ∧ x.userId ≠ t.userId) ∨ x = t) → requests t.userId →
        i ∈ db.residentInvites →
          HasToken db' i ∨ (i ∈ db.residentInvites ∧ (HasToken db i → requests i.userId)) := by
    intro t hmem hrequests hi
    by_cases huser : i.userId = t.userId
    · exact .inr ⟨hi, fun _ => huser ▸ hrequests⟩
    · by_cases htoken : HasToken db i
      · obtain ⟨x, hx, hhash, hxuser, hrest⟩ := htoken
        exact .inl ⟨x, (hmem x).mpr (.inl ⟨hx, hxuser ▸ huser⟩), hhash, hxuser, hrest⟩
      · exact .inr ⟨hi, fun hhas => absurd hhas htoken⟩
  cases hstep with
  | unchanged htokens hinvites =>
    by_cases htoken : HasToken db i
    · unfold HasToken at htoken ⊢
      rw [htokens]
      exact .inl htoken
    · exact .inr ⟨hinvites ▸ hi, fun hhas => absurd hhas htoken⟩
  | requested t hrequests htokens hinvites =>
    exact hother t (fun x => mem_tokens_requested htokens) hrequests (hinvites ▸ hi)
  | invited t j hrequests htokens hinvites ht hj =>
    rcases (Table.mem_insert hinvites).mp hi with hi | rfl
    · exact hother t (fun x => mem_tokens_requested htokens) hrequests hi
    · exact .inl ⟨t, (mem_tokens_requested htokens).mpr (.inr rfl), hj.1.symm, hj.2.1.symm, ht.1,
        ht.2, hj.2.2.symm⟩
  | redeemed now t ht htokens hinvites =>
    have hold : i ∈ db.residentInvites ∧
        (t.purpose = .RESIDENT_INVITE → i.tokenHash ≠ t.tokenHash) := by
      rw [hinvites, Auth.acceptedInvites] at hi
      split at hi
      · rcases Table.mem_modifyWhere.mp hi with ⟨j, -, -, rfl⟩ | ⟨hi, hne⟩
        · cases hsent
        · exact ⟨hi, fun _ hhash => of_decide_eq_false hne ⟨hhash, hsent⟩⟩
      · next hpurpose => exact ⟨hi, fun hp => absurd hp hpurpose⟩
    by_cases htoken : HasToken db i
    · obtain ⟨x, hx, hhash, hxuser, hpurpose, hrest⟩ := htoken
      have hxt : x ≠ t := by
        rintro rfl
        exact hold.2 hpurpose hhash.symm
      have hkey : x.tokenHash ≠ t.tokenHash := fun hk => hxt (Table.eq_of_key_eq hx ht hk)
      have hdiff : x.userId ≠ t.userId := fun hu => hxt (h x hx t ht hu)
      refine .inl ⟨x, (mem_tokens_redeemed htokens).mpr ⟨Table.mem_modify_of_ne hx hkey, ?_⟩,
        hhash, hxuser, hpurpose, hrest⟩
      exact fun hu => absurd hu hdiff
    · exact .inr ⟨hold.1, fun hhas => absurd hhas htoken⟩
  | failed q p htokens hinvites hp =>
    have hold : i ∈ db.residentInvites := by
      rw [hinvites] at hi
      rcases Table.mem_modifyWhere.mp hi with ⟨j, -, -, rfl⟩ | ⟨hi, -⟩
      · rw [hp j] at hsent
        cases hsent
      · exact hi
    by_cases htoken : HasToken db i
    · unfold HasToken at htoken ⊢
      rw [htokens]
      exact .inl htoken
    · exact .inr ⟨hold, fun hhas => absurd hhas htoken⟩

end Invariants

section Runs

variable {db : Db} {i j : ResidentInvite} {now : Date}

/-- A token was requested for the invite's user when the invite was already out. -/
def Replaced (db : Db) (ls : List (Env × Operation)) (i : ResidentInvite) : Prop :=
  ∃ ms l ns, ls = ms ++ l :: ns ∧ i ∈ (Run.exec next db ms).residentInvites ∧
    RequestsFor i.userId l (Run.exec next db ms)

theorem Replaced.concat {ls : List (Env × Operation)} (h : Replaced db ls i)
    (l : Env × Operation) : Replaced db (ls ++ [l]) i := by
  obtain ⟨ms, m, ns, rfl, hi, hrequests⟩ := h
  exact ⟨ms, m, ns ++ [l], by simp, hi, hrequests⟩

theorem hasToken_or_replaced (htokens : db.passwordResetTokens.rows = [])
    (hinvites : db.residentInvites.rows = []) (ls : List (Env × Operation)) :
    OneTokenEach (Run.exec next db ls) ∧
      ∀ i ∈ (Run.exec next db ls).residentInvites, i.status = .SENT →
        HasToken (Run.exec next db ls) i ∨ Replaced db ls i := by
  induction ls using List.reverseRecOn with
  | nil =>
    constructor
    · intro t ht
      rw [Run.exec_nil, Table.mem_rows, htokens] at ht
      cases ht
    · intro i hi
      rw [Run.exec_nil, Table.mem_rows, hinvites] at hi
      cases hi
  | append_singleton ls l ih =>
    obtain ⟨hone, hinvited⟩ := ih
    have hstep := inviteStep_next l (Run.exec next db ls)
    rw [Run.exec_concat]
    refine ⟨hstep.oneTokenEach hone, fun i hi hsent => ?_⟩
    rcases hstep.hasToken hone hi hsent with htoken | ⟨hi, hrequests⟩
    · exact .inl htoken
    · rcases hinvited i hi hsent with htoken | hreplaced
      · exact .inr ⟨ls, l, [], rfl, hi, hrequests htoken⟩
      · exact .inr (hreplaced.concat l)

/-- The token of the invite can still be redeemed. -/
def HasLiveToken (now : Date) (db : Db) (i : ResidentInvite) : Prop :=
  ∃ t ∈ db.passwordResetTokens, t.tokenHash = i.tokenHash ∧ t.userId = i.userId ∧
    t.usedAt = none ∧ now < t.expiresAt

/-- Of what the list shows as pending, a user's live token is behind one invite at most, and an
invite is without it only after a later request for its user. -/
theorem pending_invites_live_unless_replaced {ι : Type*} [LinearOrder ι] {runtime : Runtime ι}
    (htokens : db.passwordResetTokens.rows = []) (hinvites : db.residentInvites.rows = [])
    (ls : List (Env × Operation)) (now : Date) {user : Option AuthenticatedUser}
    {query : ListResidentInvitesQueryDto} {page : ResidentInvitesPage}
    (hpage : listResidentInvitesInOrg runtime now (Run.exec next db ls) user query = .ok page) :
    (∀ item ∈ page.items, item.status = .PENDING →
      ∃ i ∈ (Run.exec next db ls).residentInvites, item.inviteId = i.id ∧
        item.user.id = i.userId ∧
          (HasLiveToken now (Run.exec next db ls) i ∨ Replaced db ls i)) ∧
    ∀ i ∈ (Run.exec next db ls).residentInvites, ∀ j ∈ (Run.exec next db ls).residentInvites,
      i.userId = j.userId → HasLiveToken now (Run.exec next db ls) i →
        HasLiveToken now (Run.exec next db ls) j → i = j := by
  obtain ⟨hone, hinvited⟩ := hasToken_or_replaced htokens hinvites ls
  constructor
  · intro item hitem hpending
    obtain ⟨i, hi, hid, huser, hsent, hlive⟩ := shown_pending hpage hitem hpending
    refine ⟨i, hi, hid, huser, (hinvited i hi hsent).imp_left fun htoken => ?_⟩
    obtain ⟨t, ht, hhash, hu, -, hunused, hexpires⟩ := htoken
    exact ⟨t, ht, hhash, hu, hunused, hexpires ▸ hlive⟩
  · intro i hi j hj huser hilive hjlive
    obtain ⟨t, ht, hti, htu, -⟩ := hilive
    obtain ⟨t', ht', htj, htu', -⟩ := hjlive
    have hsame : t = t' := hone t ht t' ht' (by rw [htu, htu', huser])
    exact Table.eq_of_key_eq hi hj (by rw [← hti, ← htj, hsame])

end Runs

section Scene

def ann : Auth.User where
  id := "ann"
  email := "ann@example.com"
  name := some "Ann"
  phone := none
  orgId := some "org"
  isActive := true
  passwordHash := "argon2 temporary"
  refreshTokenHash := none
  mustChangePassword := true

def startDb : Db where
  users := ⟨[ann], by decide⟩
  books := {
    owners := .empty _
    grants := ⟨.empty _, Auth.grantCheck_empty⟩
    grant_owner := by decide }
  ownerAccessGrantAudits := []
  passwordResetTokens := .empty _
  residentInvites := .empty _
  serviceProviderAccessGrants := .empty _
  notifications := []

def sceneEnv (now : Date) (name : String) : Env where
  now
  ids := ⟨name, name, name⟩
  token := name
  temporaryPassword := "temporary"
  hashToken token := "sha256 " ++ token
  hashPassword password := "argon2 " ++ password
  toLowerCase text := text
  passwordResetTtlMinutes := 60
  enqueuePasswordResetEmail _ := .ok ()

def sceneRuntime : Runtime String where
  collate := .refl _
  containsInsensitive text needle := text = needle
  utf8 _ := ""
  parseJson _ := none
  stringify _ := ""
  parseDate _ := none
  toISOString _ := ""

def manager : Option AuthenticatedUser := some ⟨"manager", some "org"⟩

def inviteAnn : Env × Operation :=
  (sceneEnv 0 "first", .requestPasswordReset "ann@example.com" (some .RESIDENT_INVITE) none)

def annForgets : Env × Operation :=
  (sceneEnv 1 "second", .requestPasswordReset "ann@example.com" none none)

def annPending : ResidentInviteRow where
  inviteId := "first"
  status := .PENDING
  sentAt := 0
  expiresAt := 3600000
  acceptedAt := none
  failedAt := none
  failureReason := none
  user := ⟨"ann", "ann@example.com", some "Ann", true, true⟩
  createdByUser := none

theorem invite_shown_pending_is_live :
    ∃ i ∈ (Run.exec next startDb [inviteAnn]).residentInvites,
      annPending.inviteId = i.id ∧ annPending.user.id = i.userId ∧
        (HasLiveToken 1 (Run.exec next startDb [inviteAnn]) i ∨ Replaced startDb [inviteAnn] i) :=
  have hshown : listResidentInvitesInOrg sceneRuntime 1 (Run.exec next startDb [inviteAnn]) manager
      {} = .ok ⟨[annPending], none⟩ := by decide +kernel
  (pending_invites_live_unless_replaced rfl rfl [inviteAnn] 1 hshown).1 annPending (by decide) rfl

/-- Ann asks for a new password while her invite is out. -/
theorem invite_shown_pending_without_token : ¬ ∀ (ι : Type) (_ : LinearOrder ι)
    (runtime : Runtime ι) (db : Db) (ls : List (Env × Operation)) (now : Date)
    (user : Option AuthenticatedUser) (query : ListResidentInvitesQueryDto)
    (page : ResidentInvitesPage),
    listResidentInvitesInOrg runtime now (Run.exec next db ls) user query = .ok page →
      ∀ item ∈ page.items, item.status = .PENDING →
        ∃ i ∈ (Run.exec next db ls).residentInvites, item.inviteId = i.id ∧
          HasLiveToken now (Run.exec next db ls) i := by
  intro h
  have hlive := h String inferInstance sceneRuntime startDb [inviteAnn, annForgets] 2 manager {}
    ⟨[annPending], none⟩ (by decide +kernel) annPending (by decide) rfl
  revert hlive
  unfold HasLiveToken
  decide +kernel

end Scene

end Towerdesk.Residents
