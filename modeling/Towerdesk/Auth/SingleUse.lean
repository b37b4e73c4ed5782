import Towerdesk.Auth.Redemption
import Towerdesk.Lib.RowLocks

/-!
# A reset token is used once

Any number of resets with one token run at once. The token is read without a lock and found
unused; the update of the user is the first write and waits for the user's row, and nothing
reads the token again after it. So two resets that have both read the token both succeed,
one after the other; what the second one does not do twice is activate grants, which it
looks up once it has the row.
-/

namespace Towerdesk.Auth

open Program (Code)
open Interleaving (Config AtStep)
open RowLocks (Progress Shared results)

inductive Row
  | user (id : Id)
  | passwordResetToken (tokenHash : String)
  | ownerAccessGrant (id : Id)
deriving DecidableEq

/-- The row an update by key locks. -/
def DbWrite.row : DbWrite → Option Row
  | .user (.update id _) => some (.user id)
  | .passwordResetToken (.update tokenHash _) => some (.passwordResetToken tokenHash)
  | .ownerAccessGrant (.update id _) => some (.ownerAccessGrant id)
  | _ => none

structure ResetCall where
  now : Date
  passwordHash : String

abbrev Resets (π : Type) := Config π (Progress Db DbWrite Bool) (Shared π Row Db)

section Machine

variable {π : Type} [DecidableEq π] (calls : π → ResetCall) (tokenHash : String)

def startResets (db : Db) : Resets π :=
  RowLocks.start (fun p => resetPasswordByToken (calls p).now tokenHash (calls p).passwordHash) db

def nextReset (m : π × Unit) (c : Resets π) : Resets π :=
  Interleaving.next (RowLocks.machine DbWrite.apply DbWrite.row) m c

/-- The token is still unused. -/
def Unused (db : Db) : Prop :=
  ∀ token ∈ db.passwordResetTokens.findUnique tokenHash, token.usedAt = none

instance (db : Db) : Decidable (Unused tokenHash db) :=
  inferInstanceAs (Decidable (∀ token ∈ db.passwordResetTokens.findUnique tokenHash, _))

/-- A reset that comes to update the user finds the token still unused. -/
def FindsUnused (m : π × Unit) (c : Resets π) : Prop :=
  AtStep (fun p _ l s => RowLocks.Enters DbWrite.row (fun _ _ db => Unused tokenHash db) p l s) m c

instance (m : π × Unit) (c : Resets π) : Decidable (FindsUnused tokenHash m c) :=
  inferInstanceAs (Decidable (AtStep _ m c))

end Machine

section Knowledge

variable {π : Type} (calls : π → ResetCall) (tokenHash : String) (db₀ : Db)

/-- A reset that has not written: it has yet to read, or has refused the token, or has found
it good at the start. -/
inductive Reading (p : π) : Code Db DbWrite Bool → Prop
  | start : Reading p (resetPasswordByToken (calls p).now tokenHash (calls p).passwordHash)
  | refused : Reading p (.done false)
  | found {token : PasswordResetToken} {user : User}
      (hfind : findTokenWithUser tokenHash db₀ = some (token, user))
      (hgood : redeemable (calls p).now token user = true) :
      Reading p (redeem (calls p).now (calls p).passwordHash token)

/-- One reset run alone from the start, after which the token is used. -/
def RunsAlone (p : π) (db : Db) : Prop :=
  (resetPasswordByToken (calls p).now tokenHash (calls p).passwordHash).run DbWrite.apply db₀ =
    .ok (true, db)

variable {calls tokenHash db₀} {p : π} {db : Db}

theorem used_redeemedWith {now : Date} {passwordHash : String} {token token' : PasswordResetToken}
    {books : OwnerBooks}
    (h : token' ∈ (redeemedWith now passwordHash token db books).passwordResetTokens)
    (hhash : token'.tokenHash = token.tokenHash) : token'.usedAt = some now := by
  rcases Table.mem_modify.mp (List.mem_of_mem_filter h) with ⟨t, -, -, rfl⟩ | ⟨-, hne⟩
  · rfl
  · exact absurd hhash hne

/-- Whatever was redeemed, the token of that hash is used. -/
def Used (tokenHash : String) (db : Db) : Prop :=
  ∀ token ∈ db.passwordResetTokens, token.tokenHash = tokenHash → token.usedAt ≠ none

theorem Used.not_redeemable (h : Used tokenHash db) {token : PasswordResetToken} {user : User}
    {now : Date} (hfind : findTokenWithUser tokenHash db = some (token, user)) :
    ¬ redeemable now token user = true := by
  obtain ⟨htoken, hhash, -⟩ := findTokenWithUser_eq_some.mp hfind
  exact fun hgood => h token htoken hhash (redeemable_eq_true.mp hgood).1

theorem RunsAlone.found (h : RunsAlone calls tokenHash db₀ p db) :
    ∃ token user, findTokenWithUser tokenHash db₀ = some (token, user) ∧
      Activates (calls p).now token db₀.books db.books ∧
        redeemedWith (calls p).now (calls p).passwordHash token db₀ db.books = db := by
  obtain ⟨hb, -⟩ | ⟨token, user, hfind, -, -, hactivates, hdb⟩ := run_reset_ok h
  · cases hb
  · exact ⟨token, user, hfind, hactivates, hdb⟩

theorem RunsAlone.used (h : RunsAlone calls tokenHash db₀ p db) : Used tokenHash db := by
  obtain ⟨found, user, hfind, -, hdb⟩ := h.found
  obtain ⟨-, rfl, -⟩ := findTokenWithUser_eq_some.mp hfind
  intro token htoken hhash
  rw [← hdb] at htoken
  rw [used_redeemedWith htoken hhash]
  simp

theorem read_of_found {db : Db} {f : Db → Code Db DbWrite Bool}
    (hreading : Reading calls tokenHash db₀ p (.read f))
    (hsame : ∀ token user, findTokenWithUser tokenHash db = some (token, user) →
      redeemable (calls p).now token user = true → db = db₀) :
    Reading calls tokenHash db₀ p (f db) := by
  generalize hc : Code.read f = c at hreading
  cases hreading with
  | start =>
    rw [resetPasswordByToken_eq] at hc
    obtain rfl := Code.read.inj hc
    cases hfind : findTokenWithUser tokenHash db with
    | none =>
      simp only [hfind]
      exact .refused
    | some found =>
      obtain ⟨token, user⟩ := found
      simp only [hfind]
      by_cases hgood : redeemable (calls p).now token user = true
      · rw [if_pos hgood]
        exact .found (hsame token user hfind hgood ▸ hfind) hgood
      · rw [if_neg hgood]
        exact .refused
  | refused => cases hc
  | found => cases hc

theorem row_of_reading {w : DbWrite} {c : Code Db DbWrite Bool}
    (hreading : Reading calls tokenHash db₀ p (.write w c)) :
    ∃ token user, findTokenWithUser tokenHash db₀ = some (token, user) ∧
      redeemable (calls p).now token user = true ∧
        redeem (calls p).now (calls p).passwordHash token = .write w c ∧
          w.row = some (.user token.userId) := by
  generalize hc : Code.write w c = c' at hreading
  cases hreading with
  | start => cases hc
  | refused => cases hc
  | found hfind hgood =>
    refine ⟨_, _, hfind, hgood, rfl, ?_⟩
    obtain ⟨rfl, -⟩ := Code.write.inj hc
    rfl

theorem not_reading_done_true : ¬ Reading calls tokenHash db₀ p (.done true) := by
  intro hreading
  generalize hc : Code.done true = c at hreading
  cases hreading <;> cases hc

/-- The row every reset with the token takes first. -/
def userRow (tokenHash : String) (db : Db) : Row :=
  .user ((findTokenWithUser tokenHash db).elim "" fun found => found.1.userId)

end Knowledge

section Alone

variable {π : Type} [DecidableEq π] {calls : π → ResetCall} {tokenHash : String} {db₀ : Db}

/-- Nothing has happened, or all that has happened is one reset run alone. -/
def Alone (calls : π → ResetCall) (tokenHash : String) (db₀ db : Db) (r : π → Option Bool) :
    Prop :=
  (db = db₀ ∧ ∀ q, r q ≠ some true) ∨
    ∃ p, RunsAlone calls tokenHash db₀ p db ∧ r p = some true ∧ ∀ q, r q = some true → q = p

theorem update_false_ne {r : π → Option Bool} {p q : π} (h : r q ≠ some true) :
    Function.update r p (some false) q ≠ some true := by
  by_cases hq : q = p <;> simp [hq, h]

theorem alone_sound : RowLocks.Sound DbWrite.apply DbWrite.row (userRow tokenHash db₀)
    (Reading calls tokenHash db₀) (fun _ _ db => Unused tokenHash db)
    (Alone calls tokenHash db₀) where
  lock p w c hreading := by
    obtain ⟨token, user, hfind, -, -, hrow⟩ := row_of_reading hreading
    rw [hrow, userRow, hfind]
    rfl
  read p f s r hI hreading := by
    refine read_of_found hreading fun token user hfind hgood => ?_
    obtain ⟨hs, -⟩ | ⟨q, halone, -⟩ := hI
    · exact hs
    · exact absurd hgood (halone.used.not_redeemable hfind)
  done p a s r hI hr hreading := by
    cases a with
    | true => exact absurd hreading not_reading_done_true
    | false =>
      obtain ⟨hs, hnone⟩ | ⟨q, halone, hq, honly⟩ := hI
      · exact .inl ⟨hs, fun q => update_false_ne (hnone q)⟩
      · have hqp : q ≠ p := fun heq => by simp [← heq, hq] at hr
        refine .inr ⟨q, halone, by simp [hqp, hq], fun q' hq' => honly q' ?_⟩
        by_contra hne
        exact update_false_ne hne hq'
  run p w c a s s' r hI hr hreading hunused hrun := by
    obtain ⟨token, user, hfind, hgood, hentry, -⟩ := row_of_reading hreading
    rw [← hentry] at hrun
    obtain ⟨rfl, -⟩ := redeem_ok hrun
    obtain ⟨rfl, hnone⟩ | ⟨q, halone, -⟩ := hI
    · refine .inr ⟨p, (run_reset_of_redeemable hfind hgood).trans hrun, by simp, fun q hq => ?_⟩
      by_contra hne
      rw [Function.update_of_ne hne] at hq
      exact hnone q hq
    · exfalso
      obtain ⟨-, -, ⟨t, ht, hhash⟩, -, -⟩ := redeem_ok hrun
      obtain ⟨-, rfl, -⟩ := findTokenWithUser_eq_some.mp hfind
      exact halone.used t ht hhash (hunused t (Table.findUnique_eq_some.mpr ⟨ht, hhash⟩))

end Alone

section Grants

variable {token : PasswordResetToken} {now : Date} {passwordHash : String} {db₀ db db' : Db}

/-- What two states agree on when no grant was touched between them. -/
structure SameGrants (db db' : Db) : Prop where
  grants : db'.books.grants.table = db.books.grants.table
  audits : db'.ownerAccessGrantAudits = db.ownerAccessGrantAudits
  notifications : db'.notifications = db.notifications

def auditsActivation (g : OwnerAccessGrant) (a : OwnerAccessGrantAudit) : Bool :=
  a.grantId = g.id ∧ a.action = .ACTIVATED

def announces (userId : Id) (g : OwnerAccessGrant) (n : Delivery.NotificationInput) : Bool :=
  n.type = .OWNER_ACCESS_GRANTED ∧ n.recipientUserId = userId ∧
    ("grantId", Delivery.JsonValue.string g.id) ∈ n.data

/-- Each grant the token stands for is active, with one audit row and one notification more. -/
def ActivatedOnce (token : PasswordResetToken) (db₀ db : Db) : Prop :=
  ∀ g ∈ db₀.books.grants, pendingFor token g = true →
    (∃ g' ∈ db.books.grants, g'.id = g.id ∧ g'.status = .ACTIVE) ∧
      db.ownerAccessGrantAudits.countP (auditsActivation g) =
        db₀.ownerAccessGrantAudits.countP (auditsActivation g) + 1 ∧
      db.notifications.countP (announces token.userId g) =
        db₀.notifications.countP (announces token.userId g) + 1

theorem ActivatedOnce.of_same (h : ActivatedOnce token db₀ db) (hsame : SameGrants db db') :
    ActivatedOnce token db₀ db' := by
  intro g hg hpending
  obtain ⟨⟨g', hg', hid, hactive⟩, haudits, hnotifications⟩ := h g hg hpending
  refine ⟨⟨g', ?_, hid, hactive⟩, by rw [hsame.audits, haudits], by
    rw [hsame.notifications, hnotifications]⟩
  rwa [Constrained.mem_table, hsame.grants]

theorem countP_pendingOwnerGrants {g : OwnerAccessGrant} (hg : g ∈ db.books.grants)
    (hpending : pendingFor token g = true) :
    (pendingOwnerGrants token db).countP (fun p => p.1.id = g.id) = 1 := by
  have hmem : g.id ∈ (pendingOwnerGrants token db).map fun p => p.1.id := by
    have hfst : g ∈ (pendingOwnerGrants token db).map Prod.fst := by
      rw [pendingOwnerGrants_fst]
      exact List.mem_filter.mpr ⟨hg, hpending⟩
    obtain ⟨p, hp, rfl⟩ := List.mem_map.mp hfst
    exact List.mem_map.mpr ⟨p, hp, rfl⟩
  have hcount := List.count_eq_one_of_mem (nodup_pendingOwnerGrants token db) hmem
  rw [List.count, List.countP_map] at hcount
  rw [← hcount]
  refine List.countP_congr fun p _ => ?_
  simp

theorem activatedOnce_redeemed {books : OwnerBooks} (h : Activates now token db.books books) :
    ActivatedOnce token db (redeemedWith now passwordHash token db books) := by
  intro g hg hpending
  have hone := countP_pendingOwnerGrants hg hpending
  refine ⟨⟨updatedGrant now g, ?_, rfl, rfl⟩, ?_, ?_⟩
  · change updatedGrant now g ∈ books.grants.table
    rw [h.2]
    exact Table.mem_modifyWhere.mpr (.inl ⟨g, hg, hpending, rfl⟩)
  · simp only [redeemedWith, List.countP_append, List.countP_map]
    rw [← hone]
    refine congrArg _ (List.countP_congr fun p _ => ?_)
    simp [auditsActivation, activatedAudit, updatedGrant, grantActivated]
  · simp only [redeemedWith, List.countP_append, List.countP_map]
    rw [← hone]
    refine congrArg _ (List.countP_congr fun p _ => ?_)
    simp [announces, ownerAccessGranted, eq_comm]

theorem Activates.settled {books books' : OwnerBooks} (h : Activates now token books books') :
    ∀ g ∈ books'.grants, pendingFor token g = false := by
  intro g hg
  rw [Constrained.mem_table, h.2] at hg
  rcases Table.mem_modifyWhere.mp hg with ⟨g, -, -, rfl⟩ | ⟨-, hnot⟩
  · simp [pendingFor, activation, updatedGrant, grantActivated]
  · exact hnot

/-- A redemption that finds no pending grant touches none. -/
theorem sameGrants_of_settled (hactivates : Activates now token db.books db'.books)
    (hdb' : redeemedWith now passwordHash token db db'.books = db')
    (hsettled : ∀ g ∈ db.books.grants, pendingFor token g = false) : SameGrants db db' := by
  have hnone : pendingOwnerGrants token db = [] := by
    rw [← List.map_eq_nil_iff, pendingOwnerGrants_fst]
    exact List.filter_eq_nil_iff.mpr fun g hg => by simp [hsettled g hg]
  have hgrants : db'.books.grants.table = db.books.grants.table :=
    hactivates.2.trans (Table.modifyWhere_eq_self hsettled)
  rw [← hdb']
  refine ⟨hgrants, ?_, ?_⟩
  · simp [redeemedWith, hnone]
  · simp [redeemedWith, hnone]

end Grants

section Overlapping

variable {π : Type} {calls : π → ResetCall} {tokenHash : String} {db₀ : Db}

theorem RunsAlone.password {p : π} {db : Db} (h : RunsAlone calls tokenHash db₀ p db) :
    ∃ token ∈ db₀.passwordResetTokens, token.tokenHash = tokenHash ∧
      (∃ user ∈ db.users, user.key = token.userId ∧
        user.passwordHash = (calls p).passwordHash) ∧ ActivatedOnce token db₀ db := by
  obtain ⟨token, user, hfind, hactivates, hdb⟩ := h.found
  obtain ⟨htoken, hhash, huser, hid⟩ := findTokenWithUser_eq_some.mp hfind
  have honce : ActivatedOnce token db₀ db := hdb ▸ activatedOnce_redeemed hactivates
  refine ⟨token, htoken, hhash, ⟨(passwordReset (calls p).passwordHash).apply user, ?_, hid, rfl⟩,
    honce⟩
  rw [← hdb]
  exact Table.mem_modify.mpr (.inl ⟨user, huser, hid, rfl⟩)

variable [DecidableEq π]

/-- Nothing has happened, or the grants are as one reset alone has left them. -/
def Settled (calls : π → ResetCall) (tokenHash : String) (db₀ db : Db) (r : π → Option Bool) :
    Prop :=
  (db = db₀ ∧ ∀ q, r q ≠ some true) ∨
    ∃ p db₁, RunsAlone calls tokenHash db₀ p db₁ ∧ SameGrants db₁ db ∧ Used tokenHash db

theorem settled_sound : RowLocks.Sound DbWrite.apply DbWrite.row (userRow tokenHash db₀)
    (Reading calls tokenHash db₀) (fun _ _ _ => True) (Settled calls tokenHash db₀) where
  lock := alone_sound.lock
  read p f s r hI hreading := by
    refine read_of_found hreading fun token user hfind hgood => ?_
    obtain ⟨hs, -⟩ | ⟨q, s₁, -, -, hused⟩ := hI
    · exact hs
    · exact absurd hgood (hused.not_redeemable hfind)
  done p a s r hI hr hreading := by
    cases a with
    | true => exact absurd hreading not_reading_done_true
    | false => exact hI.imp_left fun ⟨hs, hnone⟩ => ⟨hs, fun q => update_false_ne (hnone q)⟩
  run p w c a s s' r hI hr hreading _ hrun := by
    obtain ⟨token, user, hfind, hgood, hentry, -⟩ := row_of_reading hreading
    rw [← hentry] at hrun
    obtain ⟨rfl, -, -, hactivates, hdb'⟩ := redeem_ok hrun
    have hhash := (findTokenWithUser_eq_some.mp hfind).2.1
    have hused : Used tokenHash s' := by
      intro t ht hth
      rw [← hdb'] at ht
      rw [used_redeemedWith ht (hth.trans hhash.symm)]
      simp
    obtain ⟨rfl, -⟩ | ⟨q, s₁, halone, hsame, -⟩ := hI
    · exact .inr ⟨p, s', (run_reset_of_redeemable hfind hgood).trans hrun, ⟨rfl, rfl, rfl⟩, hused⟩
    · obtain ⟨found, owner, hfound, hactivated, -⟩ := halone.found
      obtain ⟨rfl, rfl⟩ := Prod.mk.inj (Option.some.inj (hfound.symm.trans hfind))
      have hsettled : ∀ g ∈ s.books.grants, pendingFor found g = false := by
        intro g hg
        rw [Constrained.mem_table, hsame.grants] at hg
        exact hactivated.settled g hg
      have hagain := sameGrants_of_settled hactivates hdb' hsettled
      exact .inr ⟨q, s₁, halone, ⟨hagain.grants.trans hsame.grants,
        hagain.audits.trans hsame.audits, hagain.notifications.trans hsame.notifications⟩, hused⟩

variable (calls tokenHash db₀) in
/-- What single use asks of a state of a run: at most one reset has returned true, the password
is the one it set, and the grants that were pending at the start are active once. -/
def UsedOnce (c : Resets π) : Prop :=
  (∀ p q, results c p = some true → results c q = some true → p = q) ∧
    ∀ p, results c p = some true →
      ∃ token ∈ db₀.passwordResetTokens, token.tokenHash = tokenHash ∧
        (∃ user ∈ c.shared.committed.users, user.key = token.userId ∧
          user.passwordHash = (calls p).passwordHash) ∧
        ActivatedOnce token db₀ c.shared.committed

theorem grants_activated_once {ms : List (π × Unit)} {p : π}
    (hp : results (Run.exec nextReset (startResets calls tokenHash db₀) ms) p = some true) :
    ∃ token ∈ db₀.passwordResetTokens, token.tokenHash = tokenHash ∧
      ActivatedOnce token db₀
        (Run.exec nextReset (startResets calls tokenHash db₀) ms).shared.committed := by
  have hsettled : Settled calls tokenHash db₀
      (Run.exec nextReset (startResets calls tokenHash db₀) ms).shared.committed
      (results (Run.exec nextReset (startResets calls tokenHash db₀) ms)) :=
    RowLocks.serial_exec settled_sound (fun p => .start) (.inl ⟨rfl, fun q => nofun⟩)
      (Run.along_of_split fun _ _ _ _ => RowLocks.enters_of_forall (fun _ _ _ => trivial) _ _ _)
  obtain ⟨-, hnone⟩ | ⟨q, db₁, halone, hsame, -⟩ := hsettled
  · exact absurd hp (hnone p)
  · obtain ⟨token, htoken, hhash, -, honce⟩ := halone.password
    exact ⟨token, htoken, hhash, honce.of_same hsame⟩

/-- However resets overlap, what they do to grants is done once; when each finds the token still
unused as it comes to update the user, the token is used once in every respect. -/
theorem reset_token_single_use {π : Type} [DecidableEq π] (calls : π → ResetCall)
    (tokenHash : String) (db : Db) (ms : List (π × Unit)) :
    (∀ p, results (Run.exec nextReset (startResets calls tokenHash db) ms) p = some true →
      ∃ token ∈ db.passwordResetTokens, token.tokenHash = tokenHash ∧
        ActivatedOnce token db
          (Run.exec nextReset (startResets calls tokenHash db) ms).shared.committed) ∧
    (Run.Along nextReset (FindsUnused tokenHash) (startResets calls tokenHash db) ms →
      UsedOnce calls tokenHash db (Run.exec nextReset (startResets calls tokenHash db) ms)) := by
  refine ⟨fun p hp => grants_activated_once hp, fun hg => ?_⟩
  have halone : Alone calls tokenHash db
      (Run.exec nextReset (startResets calls tokenHash db) ms).shared.committed
      (results (Run.exec nextReset (startResets calls tokenHash db) ms)) :=
    RowLocks.serial_exec alone_sound (fun p => .start) (.inl ⟨rfl, fun q => nofun⟩) hg
  obtain ⟨-, hnone⟩ | ⟨q, halone, -, honly⟩ := halone
  · exact ⟨fun p _ hp => absurd hp (hnone p), fun p hp => absurd hp (hnone p)⟩
  · constructor
    · intro p p' hp hp'
      rw [honly p hp, honly p' hp']
    · intro p hp
      obtain rfl := honly p hp
      exact halone.password

end Overlapping

section Scene

def invitedOwner : User where
  id := "user"
  email := "owner@example.com"
  name := some "Owner"
  phone := none
  orgId := none
  isActive := true
  passwordHash := "temporary"
  refreshTokenHash := none
  mustChangePassword := true

def invitedGrant : OwnerAccessGrant where
  id := "grant"
  userId := some "user"
  ownerId := "owner"
  status := .PENDING
  inviteEmail := some "owner@example.com"
  invitedAt := some 0
  acceptedAt := none
  grantedByUserId := some "manager"
  disabledAt := none
  disabledByUserId := none
  verificationMethod := none

/-- An owner's user who has been invited and has not answered yet. -/
def inviteScene : Db where
  users := ⟨[invitedOwner], by decide⟩
  books := {
    owners := ⟨[⟨"owner", "org", "Owner One", true⟩], by decide⟩
    grants := ⟨⟨[invitedGrant], by decide⟩, by decide⟩
    grant_owner := by decide }
  ownerAccessGrantAudits := []
  passwordResetTokens := ⟨[⟨"hash", "user", .OWNER_INVITE, 1000, none⟩], by decide⟩
  residentInvites := .empty _
  serviceProviderAccessGrants := .empty _
  notifications := []

def twoCalls (second : Bool) : ResetCall := ⟨1, if second then "second" else "first"⟩

/-- The turns of one call from its first write to its commit. -/
def redemptionTurns (p : Bool) : List (Bool × Unit) := List.replicate 9 (p, ())

theorem both_resets_succeed : ¬ ∀ (π : Type) (_ : DecidableEq π) (calls : π → ResetCall)
    (tokenHash : String) (db : Db) (ms : List (π × Unit)),
    UsedOnce calls tokenHash db (Run.exec nextReset (startResets calls tokenHash db) ms) := by
  intro h
  have hsingle := (h Bool inferInstance twoCalls "hash" inviteScene
    ((false, ()) :: (true, ()) :: (redemptionTurns false ++ redemptionTurns true))).1
  exact absurd (hsingle false true (by decide +kernel) (by decide +kernel)) (by decide)

theorem second_reset_refused :
    results (Run.exec nextReset (startResets twoCalls "hash" inviteScene)
        ((false, ()) :: redemptionTurns false ++ (true, ()) :: redemptionTurns true)) false =
          some true ∧
      UsedOnce twoCalls "hash" inviteScene (Run.exec nextReset
        (startResets twoCalls "hash" inviteScene)
        ((false, ()) :: redemptionTurns false ++ (true, ()) :: redemptionTurns true)) :=
  ⟨by decide +kernel, (reset_token_single_use twoCalls "hash" inviteScene _).2 (by decide +kernel)⟩

end Scene

end Towerdesk.Auth
