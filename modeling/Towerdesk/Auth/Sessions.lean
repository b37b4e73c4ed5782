import Towerdesk.Lib.Interleaving
import Towerdesk.Auth.Service

/-!
# Sessions

The calls that keep or end the session of one account, in steps: what a call reads, the
signing of a token, what it writes. A hash stands for the text it was made from, so that
verifying is comparing. The log counts the tokens signed and notes every refresh accepted.
-/

namespace Towerdesk.Auth

open Interleaving (Machine Config)

structure RefreshPayload where
  sub : Id
  iat : ℤ
  exp : ℤ
deriving DecidableEq

/-- Signing and verifying with the refresh secret; `verify` leaves the expiry to its caller. -/
structure JwtService (τ : Type) where
  sign : RefreshPayload → τ
  verify : τ → Option RefreshPayload
  verify_eq_some : ∀ token payload, verify token = some payload ↔ sign payload = token

structure SessionSettings (τ : Type) where
  jwtService : JwtService τ
  userId : Id
  publicRegisterEnabled : Bool
  jwtRefreshTtl : ℕ

structure Account (τ : Type) where
  passwordHash : String
  refreshTokenHash : Option τ
  isActive : Bool

/-- A refresh that was accepted: its token, which of the signed ones that is, the first that
counted when it was read, and whether the user was active. -/
structure Acceptance (τ : Type) where
  token : τ
  number : ℕ
  floor : ℕ
  active : Bool

/-- Tokens are numbered as they are signed. The first that counts is the last one saved, or one
that is signed after the last logout, reset or change of the password. -/
structure SessionLog (τ : Type) where
  signed : ℕ
  saved : ℕ
  floor : ℕ
  changed : ℕ
  accepted : List (Acceptance τ)

structure SessionState (τ : Type) where
  now : Date
  account : Option (Account τ)
  passwordResetTokens : Table PasswordResetToken.tokenHash
  log : SessionLog τ

inductive SessionCall (τ : Type)
  | register (password : String)
  | login (password : String)
  | refresh (refreshToken : τ)
  | logout
  | changePassword (currentPassword newPassword : String)
  | resetPassword (tokenHash newPassword : String)
  | setActive (isActive : Bool)

inductive SessionPhase (τ : Type)
  | waiting
  | creating
  | verified (presented : Option τ)
  | issued (presented : Option τ) (token : τ) (number : ℕ)
  | changing
  | redeeming (now : Date)
  | refused
  | done
deriving DecidableEq

section Steps

variable {τ : Type} [DecidableEq τ] (settings : SessionSettings τ)

/-- JWT times are whole seconds. -/
def seconds (now : Date) : ℤ := now / 1000

def refreshTokenGuard (refreshToken : τ) (now : Date) : Bool :=
  (settings.jwtService.verify refreshToken).any fun payload =>
    decide (payload.sub = settings.userId ∧ seconds now < payload.exp)

def issueToken (now : Date) : τ :=
  settings.jwtService.sign ⟨settings.userId, seconds now, seconds now + settings.jwtRefreshTtl⟩

def SessionLog.ended (log : SessionLog τ) : SessionLog τ := { log with floor := log.signed + 1 }

def saveRefreshToken (refreshToken : τ) (number : ℕ) (s : SessionState τ) : SessionState τ :=
  { s with
    account := s.account.map fun a => { a with refreshTokenHash := some refreshToken }
    log := { s.log with saved := number, floor := max s.log.floor number } }

def clearRefreshTokenHash (s : SessionState τ) : SessionState τ :=
  { s with
    account := s.account.map fun a => { a with refreshTokenHash := none }
    log := s.log.ended }

def updatePasswordHash (passwordHash : String) (s : SessionState τ) : SessionState τ :=
  { s with
    account := s.account.map fun a => { a with passwordHash }
    log := { s.log.ended with changed := s.log.signed + 1 } }

/-- The user update of `resetPasswordByToken`, with what it does to the user's tokens. -/
def resetAccount (tokenHash passwordHash : String) (usedAt : Date) (s : SessionState τ) :
    SessionState τ :=
  { s with
    account := s.account.map fun a => { a with passwordHash, refreshTokenHash := none }
    passwordResetTokens := (s.passwordResetTokens.modify tokenHash (tokenUsed usedAt)).filter
      fun t => t.tokenHash = tokenHash
    log := s.log.ended }

def createAccount (passwordHash : String) (s : SessionState τ) : SessionState τ :=
  { s with account := some ⟨passwordHash, none, true⟩ }

def validCredentials (password : String) (s : SessionState τ) : Bool :=
  s.account.any fun a => a.isActive && decide (a.passwordHash = password)

def validRefresh (refreshToken : τ) (s : SessionState τ) : Bool :=
  refreshTokenGuard settings refreshToken s.now &&
    s.account.any fun a => decide (a.refreshTokenHash = some refreshToken)

def accountIsActive (s : SessionState τ) : Bool := s.account.any (·.isActive)

def acceptRefresh (refreshToken : τ) (s : SessionState τ) : SessionState τ :=
  { s with log := { s.log with accepted := s.log.accepted ++
      [⟨refreshToken, s.log.saved, s.log.floor, accountIsActive s⟩] } }

def liveResetToken (tokenHash : String) (s : SessionState τ) : Bool :=
  accountIsActive s && (s.passwordResetTokens.findUnique tokenHash).any fun t =>
    t.usedAt.isNone && decide (s.now < t.expiresAt)

def beginCall (s : SessionState τ) : SessionCall τ → SessionPhase τ × SessionState τ
  | .register _ =>
    if !settings.publicRegisterEnabled || s.account.isSome then (.refused, s) else (.creating, s)
  | .login password => if validCredentials password s then (.verified none, s) else (.refused, s)
  | .refresh refreshToken =>
    if validRefresh settings refreshToken s then
      (.verified (some refreshToken), acceptRefresh refreshToken s)
    else (.refused, s)
  | .logout => (.done, clearRefreshTokenHash s)
  | .changePassword currentPassword _ =>
    if validCredentials currentPassword s then (.changing, s) else (.refused, s)
  | .resetPassword tokenHash _ =>
    if liveResetToken tokenHash s then (.redeeming s.now, s) else (.refused, s)
  | .setActive isActive =>
    (.done, { s with account := s.account.map fun a => { a with isActive } })

/-- An email is unique, so a second registration fails. -/
def createStep (s : SessionState τ) : SessionCall τ → SessionPhase τ × SessionState τ
  | .register password =>
    if s.account.isSome then (.refused, s) else (.verified none, createAccount password s)
  | _ => (.refused, s)

def changeStep (s : SessionState τ) : SessionCall τ → SessionPhase τ × SessionState τ
  | .changePassword _ newPassword => (.done, updatePasswordHash newPassword s)
  | _ => (.refused, s)

/-- The commit of a reset: its row locks keep other resets out from its first write on. -/
def redeemStep (now : Date) (s : SessionState τ) : SessionCall τ → SessionPhase τ × SessionState τ
  | .resetPassword tokenHash newPassword =>
    if (s.passwordResetTokens.findUnique tokenHash).isSome then
      (.done, resetAccount tokenHash newPassword now s)
    else (.refused, s)
  | _ => (.refused, s)

def issueStep (presented : Option τ) (s : SessionState τ) : SessionPhase τ × SessionState τ :=
  (.issued presented (issueToken settings s.now) (s.log.signed + 1),
    { s with log := { s.log with signed := s.log.signed + 1 } })

def stepOf (call : SessionCall τ) (s : SessionState τ) :
    SessionPhase τ → SessionPhase τ × SessionState τ
  | .waiting => beginCall settings s call
  | .creating => createStep s call
  | .verified presented => issueStep settings presented s
  | .issued _ token number => (.done, saveRefreshToken token number s)
  | .changing => changeStep s call
  | .redeeming now => redeemStep now s call
  | .refused => (.refused, s)
  | .done => (.done, s)

def SessionState.after (s : SessionState τ) (elapsed : ℕ) : SessionState τ :=
  { s with now := s.now + elapsed }

variable {π : Type} (calls : π → SessionCall τ)

/-- One step of a call, `elapsed` milliseconds after the last step of any. -/
def sessionStep (p : π) (elapsed : ℕ) (phase : SessionPhase τ) (s : SessionState τ) :
    SessionPhase τ × SessionState τ :=
  stepOf settings (calls p) (s.after elapsed) phase

def sessions : Machine π ℕ (SessionPhase τ) (SessionState τ) := ⟨sessionStep settings calls⟩

def startSessions (now : Date) (account : Option (Account τ))
    (passwordResetTokens : Table PasswordResetToken.tokenHash) :
    Config π (SessionPhase τ) (SessionState τ) :=
  .start ⟨now, account, passwordResetTokens, ⟨0, 0, 0, 0, []⟩⟩ .waiting

end Steps

end Towerdesk.Auth
