import Towerdesk.Auth.Sessions
import Mathlib.Data.Fintype.Option

/-!
# Rotation of refresh tokens

A refresh compares with the stored hash and overwrites it some steps later, a login only
overwrites it, and a new password leaves it alone. Tokens are spent once, and only while they
count, as long as no step finds that another one has come in between.
-/

namespace Towerdesk.Auth

open Interleaving (Config)

/-- Every refresh accepted had a token of its own that counted, and an active user. -/
def Rotates {τ : Type} (log : SessionLog τ) : Prop :=
  (log.accepted.map (·.token)).Nodup ∧ ∀ a ∈ log.accepted, a.floor ≤ a.number ∧ a.active = true

def SessionPhase.presented {τ : Type} : SessionPhase τ → Option τ
  | .verified presented | .issued presented _ _ => presented
  | .waiting | .creating | .changing | .redeeming _ | .refused | .done => none

/-- A token that was signed has one of the numbers given out. -/
def SessionPhase.Numbered {τ : Type} (signed : ℕ) : SessionPhase τ → Prop
  | .issued _ _ number => number ≤ signed
  | .waiting | .creating | .verified _ | .changing | .redeeming _ | .refused | .done => True

section Condition

variable {τ π : Type}

def SessionCall.presents : SessionCall τ → Option τ
  | .refresh refreshToken => some refreshToken
  | .register _ | .login _ | .logout | .changePassword _ _ | .resetPassword _ _
  | .setActive _ => none

def SessionPhase.saves : SessionPhase τ → Option (τ × ℕ)
  | .issued _ token number => some (token, number)
  | .waiting | .creating | .verified _ | .changing | .redeeming _ | .refused | .done => none

variable [DecidableEq τ] (settings : SessionSettings τ) (calls : π → SessionCall τ)

/-- A refresh whose token matches finds the user active, no password changed since the token
was signed and no other refresh at work with it; a token that is saved is the last that
counts, and was never accepted. -/
def Undisturbed (m : π × ℕ) (c : Config π (SessionPhase τ) (SessionState τ)) : Prop :=
  (c.locals m.1 = .waiting → ∀ token ∈ (calls m.1).presents,
    validRefresh settings token (c.shared.after m.2) = true →
      accountIsActive c.shared = true ∧ c.shared.log.changed ≤ c.shared.log.saved ∧
        ∀ q, (c.locals q).presented ≠ some token) ∧
  ∀ saved ∈ (c.locals m.1).saves,
    c.shared.log.floor ≤ saved.2 ∧ ∀ a ∈ c.shared.log.accepted, a.token ≠ saved.1

instance [Fintype π] (m : π × ℕ) (c : Config π (SessionPhase τ) (SessionState τ)) :
    Decidable (Undisturbed settings calls m c) :=
  inferInstanceAs (Decidable ((c.locals m.1 = .waiting → ∀ token ∈ (calls m.1).presents,
    validRefresh settings token (c.shared.after m.2) = true → _ ∧ _ ∧
      ∀ q, (c.locals q).presented ≠ some token) ∧ ∀ saved ∈ (c.locals m.1).saves, _))

end Condition

section Invariant

variable {τ : Type} {s s' : SessionState τ} {inFlight inFlight' : τ → Prop}

/-- What is known of the stored token: it counts unless the password was changed, and when it
has been accepted before, a refresh that presented it is still at work. -/
structure Trusted (s : SessionState τ) (inFlight : τ → Prop) : Prop where
  rotates : Rotates s.log
  saved_le : s.log.saved ≤ s.log.signed
  current : ∀ a ∈ s.account, a.refreshTokenHash.isSome →
    s.log.floor ≤ s.log.saved ∨ s.log.saved < s.log.changed
  unspent : ∀ a ∈ s.account, ∀ token, a.refreshTokenHash = some token →
    (∃ x ∈ s.log.accepted, x.token = token) → inFlight token

theorem Trusted.mono (h : Trusted s inFlight) (himp : ∀ t, inFlight t → inFlight' t) :
    Trusted s inFlight' :=
  { h with unspent := fun a ha token htoken hx => himp token (h.unspent a ha token htoken hx) }

theorem Trusted.kept (h : Trusted s inFlight) (hlog : s'.log = s.log)
    (haccount : ∀ a' ∈ s'.account, a'.refreshTokenHash = none ∨
      ∃ a ∈ s.account, a.refreshTokenHash = a'.refreshTokenHash) : Trusted s' inFlight := by
  constructor
  · exact hlog ▸ h.rotates
  · exact hlog ▸ h.saved_le
  · intro a' ha' hsome
    rw [hlog]
    rcases haccount a' ha' with hnone | ⟨a, ha, hsame⟩
    · rw [hnone] at hsome
      cases hsome
    · exact h.current a ha (hsame ▸ hsome)
  · intro a' ha' token htoken hx
    rw [hlog] at hx
    rcases haccount a' ha' with hnone | ⟨a, ha, hsame⟩
    · rw [hnone] at htoken
      cases htoken
    · exact h.unspent a ha token (hsame.trans htoken) hx

theorem Trusted.signed (h : Trusted s inFlight) :
    Trusted { s with log := { s.log with signed := s.log.signed + 1 } } inFlight :=
  ⟨h.rotates, Nat.le_succ_of_le h.saved_le, h.current, h.unspent⟩

theorem Trusted.ended (h : Trusted s inFlight) (hlog : s'.log = s.log.ended)
    (haccount : ∀ a' ∈ s'.account, a'.refreshTokenHash = none) : Trusted s' inFlight := by
  constructor
  · exact hlog ▸ h.rotates
  · exact hlog ▸ h.saved_le
  · intro a' ha' hsome
    rw [haccount a' ha'] at hsome
    cases hsome
  · intro a' ha' token htoken
    rw [haccount a' ha'] at htoken
    cases htoken

theorem Trusted.changed (h : Trusted s inFlight) (passwordHash : String) :
    Trusted (updatePasswordHash passwordHash s) inFlight := by
  have hold : ∀ a' ∈ (updatePasswordHash passwordHash s).account,
      ∃ a ∈ s.account, a.refreshTokenHash = a'.refreshTokenHash := by
    intro a' ha'
    obtain ⟨a, ha, rfl⟩ := Option.map_eq_some_iff.mp ha'
    exact ⟨a, ha, rfl⟩
  refine ⟨h.rotates, h.saved_le, fun a' ha' _ => .inr (Nat.lt_succ_of_le h.saved_le), ?_⟩
  intro a' ha' token htoken hx
  obtain ⟨a, ha, hsame⟩ := hold a' ha'
  exact h.unspent a ha token (hsame.trans htoken) hx

theorem Trusted.saved (h : Trusted s inFlight) {token : τ} {number : ℕ}
    (hnumber : number ≤ s.log.signed) (hfloor : s.log.floor ≤ number)
    (hnew : ∀ a ∈ s.log.accepted, a.token ≠ token) :
    Trusted (saveRefreshToken token number s) inFlight' := by
  refine ⟨h.rotates, hnumber, fun a' ha' _ => .inl (max_le hfloor le_rfl), ?_⟩
  intro a' ha' token' htoken hx
  obtain ⟨a, ha, rfl⟩ := Option.map_eq_some_iff.mp ha'
  obtain rfl := Option.some.inj htoken
  obtain ⟨x, hx, hxtoken⟩ := hx
  exact absurd hxtoken (hnew x hx)

theorem Trusted.accepted [DecidableEq τ] (h : Trusted s inFlight) {token : τ}
    (hstored : s.account.any fun a => decide (a.refreshTokenHash = some token))
    (hactive : accountIsActive s = true) (hchanged : s.log.changed ≤ s.log.saved)
    (hidle : ¬ inFlight token) (himp : ∀ t, inFlight t → inFlight' t) (hself : inFlight' token) :
    Trusted (acceptRefresh token s) inFlight' := by
  obtain ⟨account, haccount, hstored⟩ := Option.any_eq_true _ _ |>.mp hstored
  have htoken : account.refreshTokenHash = some token := of_decide_eq_true hstored
  have hfresh : ∀ x ∈ s.log.accepted, x.token ≠ token := by
    intro x hx hxtoken
    exact hidle (h.unspent account haccount token htoken ⟨x, hx, hxtoken⟩)
  have hcounts : s.log.floor ≤ s.log.saved := by
    rcases h.current account haccount (by simp [htoken]) with hcounts | hlate
    · exact hcounts
    · omega
  refine ⟨⟨?_, ?_⟩, h.saved_le, h.current, ?_⟩
  · change ((s.log.accepted ++ [_]).map _).Nodup
    rw [List.map_append, List.nodup_append]
    refine ⟨h.rotates.1, List.nodup_singleton _, ?_⟩
    intro t ht t' ht' heq
    obtain ⟨x, hx, rfl⟩ := List.mem_map.mp ht
    obtain rfl := List.mem_singleton.mp ht'
    exact hfresh x hx heq
  · intro x hx
    rcases List.mem_append.mp hx with hx | hx
    · exact h.rotates.2 x hx
    · obtain rfl := List.mem_singleton.mp hx
      exact ⟨hcounts, hactive⟩
  · intro a ha t ht hx
    obtain ⟨x, hx, rfl⟩ := hx
    rcases List.mem_append.mp hx with hx | hx
    · exact himp _ (h.unspent a ha _ ht ⟨x, hx, rfl⟩)
    · obtain rfl := List.mem_singleton.mp hx
      exact hself

end Invariant

section Steps

variable {τ : Type} {settings : SessionSettings τ} {s s' : SessionState τ}
  {l l' : SessionPhase τ} {inFlight : τ → Prop}

/-- One step: what it keeps when the others at work stay the same. -/
structure Stepped (l l' : SessionPhase τ) (s s' : SessionState τ) (inFlight : τ → Prop) :
    Prop where
  signed_le : s.log.signed ≤ s'.log.signed
  numbered : l'.Numbered s'.log.signed
  trusted : ∀ inFlight' : τ → Prop,
    (∀ t, inFlight t → (l.presented = some t → l'.presented = some t) → inFlight' t) →
      (∀ t, l'.presented = some t → inFlight' t) → Trusted s' inFlight'

theorem Stepped.of_trusted (hsigned : s.log.signed ≤ s'.log.signed)
    (hnumbered : l'.Numbered s'.log.signed) (hpresented : l.presented = none)
    (h : Trusted s' inFlight) : Stepped l l' s s' inFlight := by
  refine ⟨hsigned, hnumbered, fun inFlight' hothers _ => h.mono fun t ht => hothers t ht ?_⟩
  rw [hpresented]
  exact nofun

theorem Trusted.stepped_kept (h : Trusted s inFlight) (hnumbered : l'.Numbered s'.log.signed)
    (hpresented : l.presented = none) (hlog : s'.log = s.log)
    (haccount : ∀ a' ∈ s'.account, a'.refreshTokenHash = none ∨
      ∃ a ∈ s.account, a.refreshTokenHash = a'.refreshTokenHash) : Stepped l l' s s' inFlight :=
  .of_trusted (hlog ▸ le_rfl) hnumbered hpresented (h.kept hlog haccount)

theorem stepped_refused (h : Trusted s inFlight) (hpresented : l.presented = none)
    (hnumbered : l'.Numbered s.log.signed) : Stepped l l' s s inFlight :=
  h.stepped_kept hnumbered hpresented rfl fun a ha => .inr ⟨a, ha, rfl⟩

theorem stepped_issue (h : Trusted s inFlight) (presented : Option τ) :
    Stepped (.verified presented) (issueStep settings presented s).1 s
      (issueStep settings presented s).2 inFlight := by
  refine ⟨Nat.le_succ _, le_rfl, fun inFlight' hothers _ => ?_⟩
  exact h.signed.mono fun t ht => hothers t ht id

theorem stepped_create (h : Trusted s inFlight) (call : SessionCall τ) :
    Stepped .creating (createStep s call).1 s (createStep s call).2 inFlight := by
  cases call with
  | register password =>
    simp only [createStep]
    split
    · exact stepped_refused h rfl trivial
    · refine h.stepped_kept trivial rfl rfl fun a' ha' => .inl ?_
      obtain rfl := Option.some.inj ha'
      rfl
  | _ => exact stepped_refused h rfl trivial

theorem stepped_change (h : Trusted s inFlight) (call : SessionCall τ) :
    Stepped .changing (changeStep s call).1 s (changeStep s call).2 inFlight := by
  cases call with
  | changePassword currentPassword newPassword =>
    exact .of_trusted le_rfl trivial rfl (h.changed newPassword)
  | _ => exact stepped_refused h rfl trivial

theorem stepped_redeem (h : Trusted s inFlight) (now : Date) (call : SessionCall τ) :
    Stepped (.redeeming now) (redeemStep now s call).1 s (redeemStep now s call).2 inFlight := by
  cases call with
  | resetPassword tokenHash newPassword =>
    simp only [redeemStep]
    split
    · refine .of_trusted le_rfl trivial rfl (h.ended rfl fun a' ha' => ?_)
      obtain ⟨a, -, rfl⟩ := Option.map_eq_some_iff.mp ha'
      rfl
    · exact stepped_refused h rfl trivial
  | _ => exact stepped_refused h rfl trivial

variable [DecidableEq τ]

theorem stepped_begin (h : Trusted s inFlight) (call : SessionCall τ)
    (hfree : ∀ token, call = .refresh token → validRefresh settings token s = true →
      accountIsActive s = true ∧ s.log.changed ≤ s.log.saved ∧ ¬ inFlight token) :
    Stepped .waiting (beginCall settings s call).1 s (beginCall settings s call).2 inFlight := by
  cases call with
  | register password =>
    simp only [beginCall]
    split
    · exact stepped_refused h rfl trivial
    · exact stepped_refused h rfl trivial
  | login password =>
    simp only [beginCall]
    split
    · exact stepped_refused h rfl trivial
    · exact stepped_refused h rfl trivial
  | refresh token =>
    simp only [beginCall]
    split
    · next hvalid =>
      obtain ⟨hactive, hchanged, hidle⟩ := hfree token rfl hvalid
      refine ⟨le_rfl, trivial, fun inFlight' hothers hself => ?_⟩
      refine h.accepted ((Bool.and_eq_true _ _).mp hvalid).2 hactive hchanged hidle ?_
        (hself token rfl)
      exact fun t ht => hothers t ht nofun
    · exact stepped_refused h rfl trivial
  | logout =>
    refine .of_trusted le_rfl trivial rfl (h.ended rfl fun a' ha' => ?_)
    obtain ⟨a, -, rfl⟩ := Option.map_eq_some_iff.mp ha'
    rfl
  | changePassword currentPassword newPassword =>
    simp only [beginCall]
    split
    · exact stepped_refused h rfl trivial
    · exact stepped_refused h rfl trivial
  | resetPassword tokenHash newPassword =>
    simp only [beginCall]
    split
    · exact stepped_refused h rfl trivial
    · exact stepped_refused h rfl trivial
  | setActive isActive =>
    refine h.stepped_kept trivial rfl rfl fun a' ha' => ?_
    obtain ⟨a, ha, rfl⟩ := Option.map_eq_some_iff.mp ha'
    exact .inr ⟨a, ha, rfl⟩

theorem stepped (h : Trusted s inFlight) (hnumbered : l.Numbered s.log.signed)
    (call : SessionCall τ)
    (hbegin : l = .waiting → ∀ token, call = .refresh token →
      validRefresh settings token s = true →
        accountIsActive s = true ∧ s.log.changed ≤ s.log.saved ∧ ¬ inFlight token)
    (hsave : ∀ presented token number, l = .issued presented token number →
      s.log.floor ≤ number ∧ ∀ a ∈ s.log.accepted, a.token ≠ token) :
    Stepped l (stepOf settings call s l).1 s (stepOf settings call s l).2 inFlight := by
  cases l with
  | waiting => exact stepped_begin h call (hbegin rfl)
  | creating => exact stepped_create h call
  | verified presented => exact stepped_issue h presented
  | issued presented token number =>
    obtain ⟨hfloor, hnew⟩ := hsave presented token number rfl
    exact ⟨le_rfl, trivial, fun inFlight' _ _ => h.saved hnumbered hfloor hnew⟩
  | changing => exact stepped_change h call
  | redeeming now => exact stepped_redeem h now call
  | refused => exact stepped_refused h rfl trivial
  | done => exact stepped_refused h rfl trivial

end Steps

section Runs

variable {τ π : Type}

def InFlight (c : Config π (SessionPhase τ) (SessionState τ)) (token : τ) : Prop :=
  ∃ p, (c.locals p).presented = some token

structure Sound (c : Config π (SessionPhase τ) (SessionState τ)) : Prop where
  trusted : Trusted c.shared (InFlight c)
  numbered : ∀ p, (c.locals p).Numbered c.shared.log.signed

theorem SessionPhase.Numbered.mono {l : SessionPhase τ} {m n : ℕ} (h : l.Numbered m)
    (hmn : m ≤ n) : l.Numbered n := by
  cases l with
  | issued presented token number => exact le_trans h hmn
  | _ => trivial

theorem sound_start (now : Date) (account : Option (Account τ))
    (tokens : Table PasswordResetToken.tokenHash) :
    Sound (startSessions now account tokens : Config π (SessionPhase τ) (SessionState τ)) := by
  refine ⟨⟨⟨List.nodup_nil, nofun⟩, le_rfl, fun _ _ _ => .inl le_rfl, ?_⟩, fun _ => trivial⟩
  intro a ha token htoken hx
  obtain ⟨x, hx, -⟩ := hx
  cases hx

variable [DecidableEq τ] [DecidableEq π] {settings : SessionSettings τ}
  {calls : π → SessionCall τ}

theorem Sound.next {c : Config π (SessionPhase τ) (SessionState τ)} (h : Sound c) {m : π × ℕ}
    (hm : Undisturbed settings calls m c) :
    Sound (Interleaving.next (sessions settings calls) m c) := by
  obtain ⟨p, elapsed⟩ := m
  have hafter : Trusted (c.shared.after elapsed) (InFlight c) :=
    h.trusted.kept rfl fun a ha => .inr ⟨a, ha, rfl⟩
  have hstep : Stepped (c.locals p) (sessionStep settings calls p elapsed (c.locals p) c.shared).1
      (c.shared.after elapsed) (sessionStep settings calls p elapsed (c.locals p) c.shared).2
        (InFlight c) := by
    refine stepped hafter (h.numbered p) (calls p) (fun hl token hcall hvalid => ?_) ?_
    · obtain ⟨hactive, hchanged, hidle⟩ :=
        hm.1 hl token (by simp [hcall, SessionCall.presents]) hvalid
      exact ⟨hactive, hchanged, fun ⟨q, hq⟩ => hidle q hq⟩
    · intro presented token number hl
      exact hm.2 (token, number) (by simp [hl, SessionPhase.saves])
  constructor
  · refine hstep.trusted _ (fun t ht hsame => ?_) fun t ht => ⟨p, ?_⟩
    · obtain ⟨q, hq⟩ := ht
      by_cases hqp : q = p
      · subst hqp
        refine ⟨q, ?_⟩
        rw [Interleaving.next_self]
        exact hsame hq
      · refine ⟨q, ?_⟩
        rw [Interleaving.next_other elapsed c hqp]
        exact hq
    · rw [Interleaving.next_self]
      exact ht
  · intro q
    by_cases hqp : q = p
    · subst hqp
      rw [Interleaving.next_self]
      exact hstep.numbered
    · rw [Interleaving.next_other elapsed c hqp]
      exact (h.numbered q).mono hstep.signed_le

theorem refresh_tokens_rotate (settings : SessionSettings τ) (calls : π → SessionCall τ)
    (now : Date) (account : Option (Account τ)) (tokens : Table PasswordResetToken.tokenHash)
    {ms : List (π × ℕ)}
    (h : Run.Along (Interleaving.next (sessions settings calls)) (Undisturbed settings calls)
      (startSessions now account tokens) ms) :
    Rotates (Run.exec (Interleaving.next (sessions settings calls))
      (startSessions now account tokens) ms).shared.log :=
  (Run.exec_inv_along (I := Sound) (fun _ _ hc hm => hc.next hm) (sound_start now account tokens)
    h).trusted.rotates

end Runs

section Scene

def sceneSettings : SessionSettings RefreshPayload where
  jwtService := ⟨id, some, fun token payload => by simp [eq_comm]⟩
  userId := "ann"
  publicRegisterEnabled := false
  jwtRefreshTtl := 604800

def registered : Option (Account RefreshPayload) := some ⟨"secret", none, true⟩

/-- The token Ann logs in with, at time zero. -/
def firstToken : RefreshPayload := ⟨"ann", 0, 604800⟩

/-- Ann logs in, and her token is presented twice. -/
def loginAndTwoRefreshes (call : Fin 3) : SessionCall RefreshPayload :=
  if call = 0 then .login "secret" else .refresh firstToken

theorem token_accepted_twice : ¬ ∀ (τ π : Type) (_ : DecidableEq τ) (_ : DecidableEq π)
    (settings : SessionSettings τ) (calls : π → SessionCall τ) (now : Date)
    (account : Option (Account τ)) (tokens : Table PasswordResetToken.tokenHash)
    (ms : List (π × ℕ)), Rotates (Run.exec (Interleaving.next (sessions settings calls))
      (startSessions now account tokens) ms).shared.log := by
  intro h
  have hrotates := h RefreshPayload (Fin 3) inferInstance inferInstance sceneSettings
    loginAndTwoRefreshes 0 registered (.empty _)
    [(0, 0), (0, 0), (0, 0), (1, 2000), (2, 0), (1, 0), (1, 0), (2, 0), (2, 0)]
  exact absurd hrotates.1 (by decide +kernel)

theorem second_refresh_refused :
    let c := Run.exec (Interleaving.next (sessions sceneSettings loginAndTwoRefreshes))
      (startSessions 0 registered (.empty _))
      [(0, 0), (0, 0), (0, 0), (1, 2000), (1, 0), (1, 0), (2, 0)]
    c.locals 1 = .done ∧ c.locals 2 = .refused ∧ Rotates c.shared.log :=
  ⟨by decide +kernel, by decide +kernel, refresh_tokens_rotate sceneSettings loginAndTwoRefreshes 0
    registered (.empty _) (by decide +kernel)⟩

end Scene

end Towerdesk.Auth
