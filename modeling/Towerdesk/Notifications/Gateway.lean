import Towerdesk.Auth.Validation
import Towerdesk.Notifications.Mirror

/-!
# The gateway of the notifications

A socket connects with a token, is found out to speak for a user, and joins the rooms of that
user in the organisations that are his at the time. Meanwhile other sockets connect and
disconnect, events are published and the services write their tables, each between any two
steps of a connection.
-/

namespace Towerdesk.Notifications.Gateway

open Access (JsonValue)
open AuthValidation
open Realtime (RealtimeEvent roomForUser)
open Script (query atomic)
open Transaction (final)

structure Handshake where
  authorization : Option String
  auth : Option JsonValue
  query : Option JsonValue

/-- What the gateway keeps of a client: its rooms and `client.data`. -/
structure Socket where
  id : Id
  connected : Bool
  userId : Option Id
  orgIds : List Id
  rooms : List String
deriving DecidableEq

structure Delivery where
  socketId : Id
  orgId : Id
  userId : Id
  event : RealtimeEvent
deriving DecidableEq

/-- `past` has the tables as they were before, for the record only. -/
structure Server where
  tables : Towerdesk.World
  past : List Towerdesk.World
  notifications : NotificationTable
  sockets : Table Socket.id
  connectedCount : ℕ
  delivered : List Delivery
  greeted : List (Id × ℕ)

structure Env where
  verifyAccessToken : String → Option Id
  localeCompare : String → String → Ordering

abbrev Call := Script Server HttpException

section Handshakes

def bearerToken (authHeader : String) : Option String :=
  match authHeader.toList.splitOn ' ' with
  | scheme :: token :: _ =>
    if String.ofList scheme = "Bearer" ∧ token ≠ [] then some (trimString (String.ofList token))
    else none
  | _ => none

def trimmedText (value : JsonValue) : Option String :=
  truthy (value.asString.map trimString)

def extractToken (handshake : Handshake) : Option String :=
  (handshake.authorization.bind bearerToken).orElse fun _ =>
    ((handshake.auth.bind (·.get "token")).bind trimmedText).orElse fun _ =>
      (handshake.query.bind (·.get "token")).bind fun
        | .array items => items.head?.bind trimmedText
        | queryToken => trimmedText queryToken

def extractOrgId (handshake : Handshake) : Result (Option Id) :=
  match handshake.auth.bind (·.get "orgId") with
  | some authOrgId => parseOrgIdOverride (some authOrgId)
  | none => parseOrgIdOverride (handshake.query.bind (·.get "orgId"))

end Handshakes

section Sockets

def joined (userId : Id) (orgIds : List Id) : Patch Socket.id where
  apply k := { k with
    userId := some userId
    orgIds := orgIds
    rooms := k.rooms ++ orgIds.map fun orgId => roomForUser orgId userId }
  key_apply _ := rfl

def closed : Patch Socket.id where
  apply k := { k with connected := false, userId := none, orgIds := [], rooms := [] }
  key_apply _ := rfl

def openSocket (socketId : Id) : EStateM HttpException Server Unit := fun s =>
  match s.sockets.insert ⟨socketId, true, none, [], []⟩ with
  | some sockets => .ok () { s with sockets }
  | none => .error (.internal "Socket exists") s

def join (socketId userId : Id) (orgIds : List Id) : EStateM HttpException Server Unit := fun s =>
  .ok () { s with
    sockets := s.sockets.modify socketId (joined userId orgIds)
    connectedCount := s.connectedCount + 1 }

/-- A socket that goes leaves its rooms, and then `handleDisconnect` is called. -/
def disconnect (socketId : Id) : EStateM HttpException Server Unit := fun s =>
  match s.sockets.findFirst fun k => k.id = socketId ∧ k.connected with
  | some socket =>
    .ok () { s with
      sockets := s.sockets.modify socketId closed
      connectedCount :=
        if truthy socket.userId ≠ none then s.connectedCount - 1 else s.connectedCount }
  | none => .ok () s

def emitHello (socketId : Id) (unreadCount : ℕ) : EStateM HttpException Server Unit := fun s =>
  .ok () { s with greeted := s.greeted ++
    ((s.sockets.rows.filter fun k => k.id = socketId ∧ k.connected).map fun k =>
      (k.id, unreadCount)) }

def publishToUser (orgId userId : Id) (event : RealtimeEvent) :
    EStateM HttpException Server Unit := fun s =>
  .ok () { s with delivered := s.delivered ++
    ((s.sockets.rows.filter fun k => k.connected ∧ roomForUser orgId userId ∈ k.rooms).map fun k =>
      ⟨k.id, orgId, userId, event⟩) }

def write (tables : Towerdesk.World) : EStateM HttpException Server Unit := fun s =>
  .ok () { s with tables, past := s.past ++ [s.tables] }

end Sockets

section Connection

variable (env : Env)

/-- The organisation that a user acts in, or all those that he sees as an owner. -/
def orgIdsOf (user : AuthenticatedUser) : Call (List Id) :=
  match truthy user.orgId with
  | some orgId => return [orgId]
  | none => query fun s => .ok (listAccessibleOrgIds s.tables env.localeCompare user.sub)

def countUnread (user : AuthenticatedUser) (orgIds : List Id) (s : Server) : ℕ :=
  match truthy user.orgId with
  | some orgId => NotificationsRepo.countUnread s.notifications user.sub orgId
  | none => NotificationsRepo.countUnreadAcrossOrgs s.notifications user.sub orgIds

def connectUser (socketId : Id) (handshake : Handshake) (token : String) : Call Unit := do
  let orgIdOverride ← Script.done (extractOrgId handshake)
  let sub ← Script.orThrow (env.verifyAccessToken token) unauthorized
  let user ← validatePayload Server.tables sub orgIdOverride
  let orgIds ← orgIdsOf env user
  if orgIds.length = 0 then atomic (disconnect socketId)
  else do
    atomic (join socketId user.sub orgIds)
    let unreadCount ← query fun s => .ok (countUnread user orgIds s)
    atomic (emitHello socketId unreadCount)

def handleConnection (socketId : Id) (handshake : Handshake) : Call Unit :=
  match truthy (extractToken handshake) with
  | none => atomic (disconnect socketId)
  | some token =>
    (connectUser env socketId handshake token).recover fun _ => atomic (disconnect socketId)

inductive GatewayCall
  | connect (socketId : Id) (handshake : Handshake)
  | disconnect (socketId : Id)
  | publish (orgId userId : Id) (event : RealtimeEvent)
  | write (tables : Towerdesk.World)

def GatewayCall.script : GatewayCall → Call Unit
  | .connect socketId handshake => do
    atomic (openSocket socketId)
    handleConnection env socketId handshake
  | .disconnect socketId => atomic (Gateway.disconnect socketId)
  | .publish orgId userId event => atomic (publishToUser orgId userId event)
  | .write tables => atomic (Gateway.write tables)

end Connection

def Server.start (tables : Towerdesk.World) (notifications : NotificationTable) : Server :=
  ⟨tables, [], notifications, .empty _, 0, [], []⟩

section Entitlement

def seen (s : Server) : List Towerdesk.World := s.past ++ [s.tables]

/-- The organisations that a connection is given, as the tables were at one moment or another. -/
inductive MayJoin (env : Env) (handshake : Handshake) (seen : List Towerdesk.World) (userId : Id) :
    Id → Prop
  | own (t : Towerdesk.World) (ht : t ∈ seen) (user : User)
    (hactive : findActiveUser t userId = some user) (orgId : Id)
    (horg : truthy user.orgId = some orgId) : MayJoin env handshake seen userId orgId
  | superadmin (t t' : Towerdesk.World) (ht : t ∈ seen) (ht' : t' ∈ seen) (user : User)
    (hactive : findActiveUser t userId = some user) (hnone : truthy user.orgId = none) (orgId : Id)
    (hnamed : extractOrgId handshake = .ok (some orgId))
    (hrole : "platform_superadmin" ∈ getRoleKeys t' userId none) :
    MayJoin env handshake seen userId orgId
  | owner (t t' : Towerdesk.World) (ht : t ∈ seen) (ht' : t' ∈ seen) (user : User)
    (hactive : findActiveUser t userId = some user) (hnone : truthy user.orgId = none) (orgId : Id)
    (hgranted : orgId ∈ listAccessibleOrgIds t' env.localeCompare userId) :
    MayJoin env handshake seen userId orgId

structure Entitled (env : Env) (handshake : Handshake) (seen : List Towerdesk.World)
    (userId orgId : Id) : Prop where
  token : ∃ token, extractToken handshake = some token ∧ env.verifyAccessToken token = some userId
  org : MayJoin env handshake seen userId orgId

/-- Identifiers have no colon, and no user has an empty one. -/
structure Plain (t : Towerdesk.World) : Prop where
  users : ∀ user ∈ t.directory.users, user.id ≠ "" ∧ ':' ∉ user.id.toList ∧
    ∀ orgId, user.orgId = some orgId → ':' ∉ orgId.toList
  owners : ∀ owner ∈ t.directory.owners, ':' ∉ owner.orgId.toList

variable {env : Env} {handshake : Handshake} {ts ts' : List Towerdesk.World} {userId orgId : Id}
  {t : Towerdesk.World}

theorem MayJoin.mono (hseen : ∀ t ∈ ts, t ∈ ts') (h : MayJoin env handshake ts userId orgId) :
    MayJoin env handshake ts' userId orgId := by
  cases h with
  | own t ht user hactive _ horg => exact .own t (hseen t ht) user hactive _ horg
  | superadmin t t' ht ht' user hactive hnone _ hnamed hrole =>
    exact .superadmin t t' (hseen t ht) (hseen t' ht') user hactive hnone _ hnamed hrole
  | owner t t' ht ht' user hactive hnone _ hgranted =>
    exact .owner t t' (hseen t ht) (hseen t' ht') user hactive hnone _ hgranted

theorem Entitled.mono (hseen : ∀ t ∈ ts, t ∈ ts') (h : Entitled env handshake ts userId orgId) :
    Entitled env handshake ts' userId orgId := ⟨h.token, h.org.mono hseen⟩

theorem Plain.activeUser {user : User} (h : Plain t)
    (hactive : findActiveUser t userId = some user) :
    userId ≠ "" ∧ ':' ∉ userId.toList ∧ ∀ orgId, user.orgId = some orgId → ':' ∉ orgId.toList := by
  obtain ⟨huser, rfl, -⟩ := findActiveUser_eq_some.mp hactive
  exact h.users user huser

theorem extractOrgId_plain (h : extractOrgId handshake = .ok (some orgId)) :
    ':' ∉ orgId.toList := by
  unfold extractOrgId at h
  split at h
  · exact (parseOrgIdOverride_plain h).2
  · exact (parseOrgIdOverride_plain h).2

theorem MayJoin.plain (hplain : ∀ t ∈ ts, Plain t) (h : MayJoin env handshake ts userId orgId) :
    userId ≠ "" ∧ ':' ∉ userId.toList ∧ ':' ∉ orgId.toList := by
  cases h with
  | own t ht user hactive _ horg =>
    obtain ⟨hnamed, huser, horgs⟩ := (hplain t ht).activeUser hactive
    exact ⟨hnamed, huser, horgs _ (truthy_eq_some.mp horg).1⟩
  | superadmin t t' ht ht' user hactive hnone _ hnamed hrole =>
    obtain ⟨huserId, huser, -⟩ := (hplain t ht).activeUser hactive
    exact ⟨huserId, huser, extractOrgId_plain hnamed⟩
  | owner t t' ht ht' user hactive hnone _ hgranted =>
    obtain ⟨huserId, huser, -⟩ := (hplain t ht).activeUser hactive
    obtain ⟨owner, howner, -, rfl, -⟩ := mem_listAccessibleOrgIds.mp hgranted
    exact ⟨huserId, huser, (hplain t' ht').owners owner howner⟩

end Entitlement

section Soundness

variable {π : Type}

structure Sound (env : Env) (calls : π → GatewayCall) (s : Server) : Prop where
  plain : ∀ t ∈ seen s, Plain t
  named : ∀ k ∈ s.sockets, ∀ userId, k.userId = some userId → userId ≠ ""
  rooms : ∀ k ∈ s.sockets, ∀ room ∈ k.rooms, ∃ p handshake userId orgId,
    calls p = .connect k.id handshake ∧ room = roomForUser orgId userId ∧
      Entitled env handshake (seen s) userId orgId
  delivered : ∀ d ∈ s.delivered, ∃ p handshake, calls p = .connect d.socketId handshake ∧
    Entitled env handshake (seen s) d.userId d.orgId
  counted : s.connectedCount = s.sockets.rows.countP (·.userId.isSome)

/-- No socket identifier is given twice, and the services write plain identifiers. -/
structure Orderly (calls : π → GatewayCall) : Prop where
  unique : ∀ p q socketId handshake handshake', calls p = .connect socketId handshake →
    calls q = .connect socketId handshake' → p = q
  writes : ∀ p tables, calls p = .write tables → Plain tables

def Unclaimed (socketId : Id) (s : Server) : Prop :=
  ∃ k ∈ s.sockets, k.id = socketId ∧ k.userId = none

/-- A socket that was found out to speak for a user only after it had gone. -/
def Gone (k : Socket) : Prop := k.connected = false ∧ k.userId.isSome = true

/-- What the others leave to a call: the tables that it saw, and its socket until it joins. -/
structure Rely (calls : π → GatewayCall) (p : π) (s s' : Server) : Prop where
  seen : ∀ t ∈ seen s, t ∈ seen s'
  socket : ∀ socketId handshake, calls p = .connect socketId handshake →
    Unclaimed socketId s → Unclaimed socketId s'

structure Guarantee (env : Env) (calls : π → GatewayCall) (p : π) (s s' : Server) : Prop where
  others : ∀ q, q ≠ p → Rely calls q s s'
  sound : Sound env calls s → Sound env calls s'
  gone : ∀ k ∈ s.sockets, Gone k → k ∈ s'.sockets

variable {env : Env} {calls : π → GatewayCall} {p : π} {s s' : Server} {socketId userId : Id}
  {handshake : Handshake} {orgIds : List Id}

theorem Rely.refl (s : Server) : Rely calls p s s := ⟨fun _ h => h, fun _ _ _ h => h⟩

theorem Rely.trans {s'' : Server} (h : Rely calls p s s') (h' : Rely calls p s' s'') :
    Rely calls p s s'' :=
  ⟨fun t ht => h'.seen t (h.seen t ht),
    fun socketId handshake hp hs =>
      h'.socket socketId handshake hp (h.socket socketId handshake hp hs)⟩

theorem Guarantee.refl (s : Server) : Guarantee env calls p s s :=
  ⟨fun _ _ => .refl s, fun h => h, fun _ hk _ => hk⟩

/-- Only the sockets and their count have changed, and the rooms only as they may. -/
theorem Sound.of_sockets {sockets : Table Socket.id} {count : ℕ} (h : Sound env calls s)
    (hnamed : ∀ k ∈ sockets, ∀ userId, k.userId = some userId → userId ≠ "")
    (hrooms : ∀ k ∈ sockets, ∀ room ∈ k.rooms,
      (∃ k' ∈ s.sockets, k'.id = k.id ∧ room ∈ k'.rooms) ∨
      ∃ p handshake userId orgId, calls p = .connect k.id handshake ∧
        room = roomForUser orgId userId ∧ Entitled env handshake (seen s) userId orgId)
    (hcount : count = sockets.rows.countP (·.userId.isSome)) :
    Sound env calls { s with sockets, connectedCount := count } where
  plain := h.plain
  named := hnamed
  rooms k hk room hroom := by
    rcases hrooms k hk room hroom with ⟨k', hk', hid, hroom'⟩ | hjoined
    · rw [← hid]
      exact h.rooms k' hk' room hroom'
    · exact hjoined
  delivered := h.delivered
  counted := hcount

theorem guarantee_open (socketId : Id) :
    Guarantee env calls p s (final (openSocket socketId s)) := by
  unfold openSocket
  cases hinsert : s.sockets.insert ⟨socketId, true, none, [], []⟩ with
  | none => exact .refl s
  | some sockets =>
    have hmem : ∀ k, k ∈ sockets ↔ k ∈ s.sockets ∨ k = ⟨socketId, true, none, [], []⟩ :=
      fun k => Table.mem_insert hinsert
    refine ⟨fun q _ => ⟨fun t ht => ht, fun socketId' handshake' _ hs => ?_⟩, fun hs => ?_,
      fun k hk _ => (hmem k).mpr (.inl hk)⟩
    · obtain ⟨k, hk, hid, hnone⟩ := hs
      exact ⟨k, (hmem k).mpr (.inl hk), hid, hnone⟩
    · refine hs.of_sockets (fun k hk userId huser => ?_) (fun k hk room hroom => ?_) ?_
      · rcases (hmem k).mp hk with hk | rfl
        · exact hs.named k hk userId huser
        · cases huser
      · rcases (hmem k).mp hk with hk | rfl
        · exact .inl ⟨k, hk, rfl, hroom⟩
        · exact absurd hroom List.not_mem_nil
      · rw [Table.insert_eq_some.mp hinsert, List.countP_append, hs.counted]
        rfl

theorem guarantee_join
    (horderly : Orderly calls)
    (hp : calls p = .connect socketId handshake) (hunclaimed : Unclaimed socketId s)
    (hentitled : ∀ orgId ∈ orgIds, Entitled env handshake (seen s) userId orgId)
    (hnamed : Sound env calls s → userId ≠ "") :
    Guarantee env calls p s (final (join socketId userId orgIds s)) := by
  obtain ⟨k₀, hk₀, rfl, hnone⟩ := hunclaimed
  have hmem : ∀ k, k ∈ s.sockets.modify k₀.id (joined userId orgIds) ↔
      k = (joined userId orgIds).apply k₀ ∨ k ∈ s.sockets ∧ k.id ≠ k₀.id :=
    fun k => Table.mem_modify_iff hk₀
  refine ⟨fun q hq => ⟨fun t ht => ht, fun socketId' handshake' hq' hs => ?_⟩, fun hs => ?_,
    fun k hk hgone => ?_⟩
  · obtain ⟨k, hk, rfl, hnone'⟩ := hs
    refine ⟨k, (hmem k).mpr (.inr ⟨hk, fun hid => hq ?_⟩), rfl, hnone'⟩
    rw [hid] at hq'
    exact horderly.unique q p k₀.id handshake' handshake hq' hp
  · refine hs.of_sockets (fun k hk user huser => ?_) (fun k hk room hroom => ?_) ?_
    · rcases (hmem k).mp hk with rfl | ⟨hk, -⟩
      · obtain rfl := Option.some.inj huser
        exact hnamed hs
      · exact hs.named k hk user huser
    · rcases (hmem k).mp hk with rfl | ⟨hk, -⟩
      · rcases List.mem_append.mp hroom with hold | hnew
        · exact .inl ⟨k₀, hk₀, rfl, hold⟩
        · obtain ⟨orgId, horg, rfl⟩ := List.mem_map.mp hnew
          exact .inr ⟨p, handshake, userId, orgId, hp, rfl, hentitled orgId horg⟩
      · exact .inl ⟨k, hk, rfl, hroom⟩
    · have hcount := Table.countP_modify (p := joined userId orgIds) (q := (·.userId.isSome)) hk₀
      rw [hnone, hs.counted] at *
      exact hcount.symm
  · refine (hmem k).mpr (.inr ⟨hk, fun hid => ?_⟩)
    obtain rfl := Table.eq_of_key_eq hk hk₀ hid
    obtain ⟨-, hsome⟩ := hgone
    rw [hnone] at hsome
    cases hsome

theorem guarantee_disconnect (socketId : Id) :
    Guarantee env calls p s (final (disconnect socketId s)) := by
  unfold disconnect
  cases hfind : s.sockets.findFirst fun k => k.id = socketId ∧ k.connected with
  | none => exact .refl s
  | some socket =>
    obtain ⟨hsocket, hfound⟩ := Table.findFirst_some hfind
    obtain ⟨rfl, hconnected⟩ := of_decide_eq_true hfound
    have hmem : ∀ k, k ∈ s.sockets.modify socket.id closed ↔
        k = closed.apply socket ∨ k ∈ s.sockets ∧ k.id ≠ socket.id :=
      fun k => Table.mem_modify_iff hsocket
    refine ⟨fun q hq => ⟨fun t ht => ht, fun socketId' handshake' _ hs => ?_⟩, fun hs => ?_,
      fun k hk hgone => ?_⟩
    · obtain ⟨k, hk, rfl, hnone⟩ := hs
      by_cases hid : k.id = socket.id
      · exact ⟨_, (hmem _).mpr (.inl rfl), hid.symm, rfl⟩
      · exact ⟨k, (hmem k).mpr (.inr ⟨hk, hid⟩), rfl, hnone⟩
    · refine hs.of_sockets (fun k hk user huser => ?_) (fun k hk room hroom => ?_) ?_
      · rcases (hmem k).mp hk with rfl | ⟨hk, -⟩
        · cases huser
        · exact hs.named k hk user huser
      · rcases (hmem k).mp hk with rfl | ⟨hk, -⟩
        · exact absurd hroom List.not_mem_nil
        · exact .inl ⟨k, hk, rfl, hroom⟩
      · have hcount := Table.countP_modify (p := closed) (q := (·.userId.isSome)) hsocket
        have hgone : (closed.apply socket).userId.isSome = false := rfl
        rw [hgone, ← hs.counted] at hcount
        cases huser : socket.userId with
        | none =>
          rw [huser] at hcount
          simpa [truthy] using hcount.symm
        | some userId =>
          have htruthy : truthy (some userId) ≠ none := by
            rw [truthy_eq_some.mpr ⟨rfl, hs.named socket hsocket userId huser⟩]
            exact Option.some_ne_none _
          rw [huser, Option.isSome_some, if_pos rfl, if_neg Bool.false_ne_true] at hcount
          rw [if_pos htruthy]
          omega
    · refine (hmem k).mpr (.inr ⟨hk, fun hid => ?_⟩)
      obtain rfl := Table.eq_of_key_eq hk hsocket hid
      obtain ⟨hleft, -⟩ := hgone
      rw [hconnected] at hleft
      cases hleft

theorem guarantee_emitHello (socketId : Id) (unreadCount : ℕ) :
    Guarantee env calls p s (final (emitHello socketId unreadCount s)) :=
  ⟨fun _ _ => ⟨fun _ ht => ht, fun _ _ _ hs => hs⟩,
    fun hs => ⟨hs.plain, hs.named, hs.rooms, hs.delivered, hs.counted⟩, fun _ hk _ => hk⟩

theorem guarantee_publish (orgId userId : Id) (event : RealtimeEvent) :
    Guarantee env calls p s (final (publishToUser orgId userId event s)) := by
  refine ⟨fun _ _ => ⟨fun _ ht => ht, fun _ _ _ hs => hs⟩,
    fun hs => ⟨hs.plain, hs.named, hs.rooms, fun d hd => ?_, hs.counted⟩, fun _ hk _ => hk⟩
  rcases List.mem_append.mp hd with hold | hnew
  · exact hs.delivered d hold
  · obtain ⟨k, hk, rfl⟩ := List.mem_map.mp hnew
    obtain ⟨hk, hheard⟩ := List.mem_filter.mp hk
    obtain ⟨q, handshake, user, org, hq, hroom, hentitled⟩ :=
      hs.rooms k hk _ (of_decide_eq_true hheard).2
    obtain ⟨-, huser, horg⟩ := hentitled.org.plain hs.plain
    obtain ⟨rfl, rfl⟩ := (Realtime.roomForUser_inj horg huser).mp hroom
    exact ⟨q, handshake, hq, hentitled⟩

theorem guarantee_write {tables : Towerdesk.World} (hplain : Plain tables) :
    Guarantee env calls p s (final (write tables s)) := by
  have hseen : ∀ t ∈ seen s, t ∈ seen (final (write tables s)) :=
    fun t ht => List.mem_append_left _ ht
  refine ⟨fun _ _ => ⟨hseen, fun _ _ _ hs => hs⟩, fun hs => ⟨fun t ht => ?_, hs.named,
    fun k hk room hroom => ?_, fun d hd => ?_, hs.counted⟩, fun _ hk _ => hk⟩
  · rcases List.mem_append.mp ht with hold | hnew
    · exact hs.plain t hold
    · obtain rfl := List.mem_singleton.mp hnew
      exact hplain
  · obtain ⟨q, handshake, user, org, hq, hroom, hentitled⟩ := hs.rooms k hk room hroom
    exact ⟨q, handshake, user, org, hq, hroom, hentitled.mono hseen⟩
  · obtain ⟨q, handshake, hq, hentitled⟩ := hs.delivered d hd
    exact ⟨q, handshake, hq, hentitled.mono hseen⟩

end Soundness

section Connections

variable {π : Type} {env : Env} {calls : π → GatewayCall} {p : π} {s s' : Server}
  {socketId sub : Id} {handshake : Handshake} {orgIds : List Id} {user : AuthenticatedUser}

abbrev Upheld (env : Env) (calls : π → GatewayCall) (p : π) {α : Type} (Q : α → Server → Prop)
    (c : Call α) (s : Server) : Prop :=
  c.Upholds (Rely calls p) (fun s effect => Guarantee env calls p s (effect s)) Q s

/-- What the gateway knows of a user once the payload is validated. -/
structure Verified (env : Env) (socketId : Id) (handshake : Handshake) (sub : Id)
    (user : AuthenticatedUser) (s : Server) : Prop where
  subject : user.sub = sub
  org : ∀ orgId, truthy user.orgId = some orgId → MayJoin env handshake (seen s) sub orgId
  nobody : truthy user.orgId = none → ∃ t ∈ seen s, ∃ row, findActiveUser t sub = some row ∧
    truthy row.orgId = none
  unclaimed : Unclaimed socketId s

theorem tables_mem_seen (s : Server) : s.tables ∈ seen s :=
  List.mem_append_right _ (List.mem_singleton_self _)

theorem validatePayload_upheld {orgIdOverride : Option Id}
    (hp : calls p = .connect socketId handshake)
    (hnamed : extractOrgId handshake = .ok orgIdOverride) (hs : Unclaimed socketId s) :
    Upheld env calls p (Verified env socketId handshake sub)
      (validatePayload Server.tables sub orgIdOverride) s := by
  refine Script.upholds_query_bind (fun _ => .refl _) fun s₁ row h₁ hrow => ?_
  have hactive := Outcome.orThrow_eq_ok.mp hrow
  obtain ⟨-, hid, -⟩ := findActiveUser_eq_some.mp hactive
  have hs₁ := h₁.socket socketId handshake hp hs
  split_ifs with hcase
  · obtain ⟨hnone, hoverride⟩ := hcase
    refine Script.upholds_query_bind (fun _ => .refl _) fun s₂ roleKeys h₂ hkeys => ?_
    obtain rfl : getRoleKeys s₂.tables row.id Option.none = roleKeys := Except.ok.inj hkeys
    split_ifs with hrole
    · refine Script.upholds_done fun user huser => ?_
      obtain rfl : (⟨row.id, orgIdOverride⟩ : AuthenticatedUser) = user := Except.ok.inj huser
      refine ⟨hid, fun orgId horg => ?_, fun hempty => absurd hempty hoverride,
        h₂.socket socketId handshake hp hs₁⟩
      obtain rfl : orgIdOverride = some orgId := (truthy_eq_some.mp horg).1
      rw [hid] at hrole
      exact .superadmin s₁.tables s₂.tables (h₂.seen _ (tables_mem_seen s₁)) (tables_mem_seen s₂)
        row hactive hnone orgId hnamed hrole
    · exact Script.upholds_done fun _ huser => by cases huser
  · refine Script.upholds_done fun user huser => ?_
    obtain rfl : (⟨row.id, row.orgId⟩ : AuthenticatedUser) = user := Except.ok.inj huser
    exact ⟨hid, fun orgId horg => .own s₁.tables (tables_mem_seen s₁) row hactive orgId horg,
      fun hempty => ⟨s₁.tables, tables_mem_seen s₁, row, hactive, hempty⟩, hs₁⟩

/-- What is left of a connection when the organisations are known. -/
theorem join_upheld
    (horderly : Orderly calls)
    (hp : calls p = .connect socketId handshake) (hs : Unclaimed socketId s)
    (hentitled : ∀ orgId ∈ orgIds, Entitled env handshake (seen s) sub orgId) :
    Upheld env calls p (fun _ _ => True)
      (if orgIds.length = 0 then atomic (disconnect socketId)
      else do
        atomic (join socketId sub orgIds)
        let unreadCount ← query fun s => .ok (countUnread user orgIds s)
        atomic (emitHello socketId unreadCount)) s := by
  split_ifs with hempty
  · exact Script.upholds_atomic fun _ _ => guarantee_disconnect socketId
  · refine Script.upholds_atomic_bind (fun s' hs' => ?_) fun _ s'' _ _ _ => ?_
    · have hlater : ∀ orgId ∈ orgIds, Entitled env handshake (seen s') sub orgId :=
        fun orgId horg => (hentitled orgId horg).mono hs'.seen
      refine guarantee_join horderly hp (hs'.socket socketId handshake hp hs) hlater
        fun hsound => ?_
      obtain ⟨orgId, horg⟩ := List.exists_mem_of_ne_nil orgIds fun hnil =>
        hempty (by rw [hnil]; rfl)
      exact ((hlater orgId horg).org.plain hsound.plain).1
    · refine Script.upholds_query_bind (fun _ => .refl _) fun _ _ _ _ => ?_
      exact Script.upholds_atomic fun _ _ => guarantee_emitHello socketId _

theorem connectUser_upheld {token : String}
    (horderly : Orderly calls)
    (hp : calls p = .connect socketId handshake) (htoken : extractToken handshake = some token)
    (hs : Unclaimed socketId s) :
    Upheld env calls p (fun _ _ => True) (connectUser env socketId handshake token) s := by
  refine Script.upholds_done_bind fun orgIdOverride hnamed => ?_
  refine Script.upholds_done_bind fun sub hsub => ?_
  have hverified := Outcome.orThrow_eq_ok.mp hsub
  refine Script.upholds_bind (validatePayload_upheld hp hnamed hs) fun user s₁ huser => ?_
  obtain ⟨rfl, horg, hnone, hs₁⟩ := huser
  have hentitled : Upheld env calls p (fun orgIds s => Unclaimed socketId s ∧ ∀ orgId ∈ orgIds,
      Entitled env handshake (seen s) user.sub orgId) (orgIdsOf env user) s₁ := by
    unfold orgIdsOf
    cases htruthy : truthy user.orgId with
    | some orgId =>
      refine Script.upholds_done fun orgIds horgs => ?_
      obtain rfl := Except.ok.inj horgs
      refine ⟨hs₁, fun orgId' horg' => ?_⟩
      obtain rfl := List.mem_singleton.mp horg'
      exact ⟨⟨token, htoken, hverified⟩, horg orgId' htruthy⟩
    | none =>
      obtain ⟨t, ht, row, hactive, hempty⟩ := hnone htruthy
      refine fun s₂ h₂ => ⟨.refl _, Script.upholds_done fun orgIds horgs => ?_⟩
      obtain rfl := Except.ok.inj horgs
      refine ⟨h₂.socket socketId handshake hp hs₁, fun orgId horg => ?_⟩
      exact ⟨⟨token, htoken, hverified⟩, .owner t s₂.tables (h₂.seen t ht) (tables_mem_seen s₂) row
        hactive hempty orgId horg⟩
  exact Script.upholds_bind hentitled fun orgIds s₂ h₂ => join_upheld horderly hp h₂.1 h₂.2

theorem script_upheld
    (horderly : Orderly calls) (p : π) (s : Server) :
    Upheld env calls p (fun _ _ => True) ((calls p).script env) s := by
  cases hp : calls p with
  | connect socketId handshake =>
    refine Script.upholds_atomic_bind (fun _ _ => guarantee_open socketId)
      fun s₁ s₂ _ _ hopened => ?_
    have hs₂ : Unclaimed socketId s₂ := by
      unfold openSocket at hopened
      cases hinsert : s₁.sockets.insert ⟨socketId, true, none, [], []⟩ with
      | none =>
        rw [hinsert] at hopened
        cases hopened
      | some sockets =>
        rw [hinsert] at hopened
        cases hopened
        exact ⟨_, (Table.mem_insert hinsert).mpr (.inr rfl), rfl, rfl⟩
    unfold handleConnection
    cases htoken : truthy (extractToken handshake) with
    | none => exact Script.upholds_atomic fun _ _ => guarantee_disconnect socketId
    | some token =>
      exact Script.upholds_recover
        (connectUser_upheld horderly hp (truthy_eq_some.mp htoken).1 hs₂)
        fun _ _ => Script.upholds_atomic fun _ _ => guarantee_disconnect socketId
  | disconnect socketId => exact Script.upholds_atomic fun _ _ => guarantee_disconnect socketId
  | publish orgId userId event =>
    exact Script.upholds_atomic fun _ _ => guarantee_publish orgId userId event
  | write tables =>
    exact Script.upholds_atomic fun _ _ => guarantee_write (horderly.writes p tables hp)

end Connections

section Turns

variable {π : Type} {env : Env} {calls : π → GatewayCall} {tables : Towerdesk.World}
  {notifications : NotificationTable}

theorem sound_start (hplain : Plain tables) : Sound env calls (.start tables notifications) where
  plain t ht := by
    obtain rfl := List.mem_singleton.mp ht
    exact hplain
  named k hk := absurd hk List.not_mem_nil
  rooms k hk := absurd hk List.not_mem_nil
  delivered d hd := absurd hd List.not_mem_nil
  counted := rfl

variable [DecidableEq π]

abbrev serverAfter (env : Env) (calls : π → GatewayCall) (tables : Towerdesk.World)
    (notifications : NotificationTable) (ms : List (π × Unit)) : Server :=
  (Script.inTurns (fun p => (calls p).script env) (.start tables notifications) ms).shared

theorem upheld_after
    (horderly : Orderly calls) (hplain : Plain tables) (ms : List (π × Unit)) :
    (∀ p, Upheld env calls p (fun _ _ => True)
      ((Script.inTurns (fun p => (calls p).script env) (.start tables notifications) ms).locals p)
      (serverAfter env calls tables notifications ms)) ∧
    Sound env calls (serverAfter env calls tables notifications ms) :=
  Script.upheld_exec (R := Rely calls) (fun _ => .refl) (fun _ => .trans)
    (fun _ q _ _ hq h => h.others q hq) (fun _ _ _ h hs => h.sound hs)
    (fun p => script_upheld horderly p _) (sound_start hplain) ms

/-- The count has the sockets that are connected for a user, and besides them those that had gone
before they were found out to be; and those it counts forever. -/
theorem connections_counted
    (horderly : Orderly calls) (hplain : Plain tables) (ms : List (π × Unit)) :
    (serverAfter env calls tables notifications ms).connectedCount =
      (serverAfter env calls tables notifications ms).sockets.rows.countP
        (fun k => k.connected ∧ k.userId.isSome) +
      (serverAfter env calls tables notifications ms).sockets.rows.countP
        (fun k => k.connected = false ∧ k.userId.isSome) ∧
    ∀ k ∈ (serverAfter env calls tables notifications ms).sockets, Gone k →
      ∀ ms', k ∈ (serverAfter env calls tables notifications (ms ++ ms')).sockets := by
  obtain ⟨hupheld, hsound⟩ := upheld_after horderly hplain ms
  refine ⟨?_, fun k hk hgone ms' => ?_⟩
  · rw [hsound.counted]
    generalize (serverAfter env calls tables notifications ms).sockets.rows = rows
    induction rows with
    | nil => rfl
    | cons k rows ih =>
      simp only [List.countP_cons, ih]
      cases hconnected : k.connected <;> cases huser : k.userId <;> simp <;> omega
  · have hlater := Script.upheld_exec (R := Rely calls) (I := fun s => k ∈ s.sockets)
      (fun _ => .refl) (fun _ => .trans) (fun _ q _ _ hq h => h.others q hq)
      (fun _ _ _ h hs => h.gone k hs hgone) hupheld hk ms'
    rw [serverAfter, Script.inTurns_append]
    exact hlater.2

def sceneTables : Towerdesk.World :=
  { Towerdesk.World.empty with directory := { Directory.empty with
      users := ⟨[⟨"ann", "ann@x", none, none, some "org", true⟩], List.nodup_singleton _⟩ } }

theorem sceneTables_plain : Plain sceneTables where
  users user huser := by
    obtain rfl := List.mem_singleton.mp huser
    refine ⟨by decide, by decide, fun orgId horg => ?_⟩
    obtain rfl := Option.some.inj horg
    decide
  owners owner howner := absurd howner List.not_mem_nil

def sceneEnv : Env := ⟨fun token => if token = "secret" then some "ann" else none, compare⟩

/-- Ann connects, and an event for her is published. -/
def sceneCalls (publishes : Bool) : GatewayCall :=
  if publishes then .publish "org" "ann" (.undismiss "n1")
  else .connect "socket" ⟨some "Bearer secret", none, none⟩

theorem sceneCalls_orderly : Orderly sceneCalls where
  unique p q socketId handshake handshake' hp hq := by
    cases p with
    | true => cases hp
    | false =>
      cases q with
      | true => cases hq
      | false => rfl
  writes p tables hp := by cases p <;> cases hp

def sceneTurns : List (Bool × Unit) :=
  [(false, ()), (false, ()), (false, ()), (true, ()), (false, ())]

theorem connections_counted_scene :
    (serverAfter sceneEnv sceneCalls sceneTables (.empty _) sceneTurns).connectedCount =
      (serverAfter sceneEnv sceneCalls sceneTables (.empty _) sceneTurns).sockets.rows.countP
        (fun k => k.connected ∧ k.userId.isSome) +
      (serverAfter sceneEnv sceneCalls sceneTables (.empty _) sceneTurns).sockets.rows.countP
        (fun k => k.connected = false ∧ k.userId.isSome) ∧
    ∀ k ∈ (serverAfter sceneEnv sceneCalls sceneTables (.empty _) sceneTurns).sockets, Gone k →
      ∀ ms', k ∈ (serverAfter sceneEnv sceneCalls sceneTables (.empty _)
        (sceneTurns ++ ms')).sockets :=
  connections_counted sceneCalls_orderly sceneTables_plain sceneTurns

end Turns

end Towerdesk.Notifications.Gateway
