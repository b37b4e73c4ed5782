import Towerdesk.Lib.Turns
import Towerdesk.Delivery.PushSending

/-!
# The devices that are pushed to

A user registers the token of a device, as a member of an organisation or as an owner, changes
it, and takes the device back; a ticket may say that a device is gone. A token is in the table
once, so it is taken over by whoever registers it last.
-/

namespace Towerdesk.Delivery.PushNotifications.Devices

open IsoDate (TimeValue)
open Notifications (PushProvider)
open Script (query atomic)
open Transaction (Ends final)

structure Device extends PushDevice where
  orgId : Option Id
  deviceId : Option String
  appId : Option String
  lastSeenAt : TimeValue
  createdAt : TimeValue
  updatedAt : TimeValue
deriving DecidableEq

inductive DeviceConstraint
  | token_key
deriving DecidableEq

def tokenKey (d : Device) : Option String := some d.token

def deviceCheck (t : Table fun d : Device => d.id) : Option DeviceConstraint :=
  if t.UniqueOn tokenKey then none else some .token_key

abbrev DeviceTable := Constrained (fun d : Device => d.id) deviceCheck

structure Registry where
  users : List Id
  orgs : List Id
  devices : DeviceTable

structure Env where
  now : TimeValue
  id : Id

structure RegisterPushDeviceDto where
  provider : PushProvider
  token : String
  platform : Field PushPlatform
  deviceId : Field String
  appId : Field String
deriving DecidableEq

structure UpdatePushDeviceDto where
  provider : Field PushProvider
  token : Field String
  platform : Field PushPlatform
  deviceId : Field String
  appId : Field String
deriving DecidableEq

/-- What the repository writes into a row. -/
structure DeviceInput where
  orgId : Option Id
  userId : Id
  provider : PushProvider
  platform : PushPlatform
  token : String
  deviceId : Option String
  appId : Option String
deriving DecidableEq

abbrev Call := Script Registry HttpException

section Repo

variable (env : Env)

def written (input : DeviceInput) : Patch fun d : Device => d.id where
  apply d := { d with
    orgId := input.orgId
    userId := input.userId
    provider := input.provider
    platform := input.platform
    token := input.token
    deviceId := input.deviceId
    appId := input.appId
    isActive := true
    lastSeenAt := env.now
    updatedAt := env.now }
  key_apply _ := rfl

def newDevice (input : DeviceInput) : Device where
  id := env.id
  orgId := input.orgId
  userId := input.userId
  provider := input.provider
  platform := input.platform
  token := input.token
  deviceId := input.deviceId
  appId := input.appId
  isActive := true
  lastSeenAt := env.now
  createdAt := env.now
  updatedAt := env.now

/-- The rows that an input refers to are there. -/
def Registry.refers (s : Registry) (input : DeviceInput) : Bool :=
  input.userId ∈ s.users ∧ ∀ orgId ∈ input.orgId, orgId ∈ s.orgs

def store (w : Table.Write fun d : Device => d.id) (input : DeviceInput) :
    EStateM HttpException Registry Unit := fun s =>
  if s.refers input then
    match s.devices.write w with
    | .ok devices => .ok () { s with devices }
    | .error _ => .error (.internal "Unique constraint failed on the fields: (token)") s
  else .error (.internal "Foreign key constraint violated") s

def register (input : DeviceInput) : EStateM HttpException Registry Unit := fun s =>
  match s.devices.table.findFirst (·.token = input.token) with
  | some existing => store (.update existing.id (written env input)) input s
  | none => store (.create (newDevice env input)) input s

def findByIdForUser (s : Registry) (deviceId userId : Id) : Option Device :=
  s.devices.table.findFirst fun d => d.id = deviceId ∧ d.userId = userId

def updateForUser (deviceId : Id) (input : DeviceInput) : EStateM HttpException Registry Unit :=
  store (.update deviceId (written env input)) input

/-- `updateMany` of rows that are no longer active; `lastSeenAt` is set where a user does it. -/
def deactivate (lastSeenAt : Option TimeValue) : Patch fun d : Device => d.id where
  apply d := { d with
    isActive := false
    lastSeenAt := lastSeenAt.getD d.lastSeenAt
    updatedAt := env.now }
  key_apply _ := rfl

theorem uniqueOn_of_check {t : Table fun d : Device => d.id} :
    deviceCheck t = none ↔ t.UniqueOn tokenKey := by
  unfold deviceCheck
  split_ifs with h
  · exact iff_of_true rfl h
  · exact iff_of_false nofun h

def deactivateWhere (q : Device → Bool) (lastSeenAt : Option TimeValue) :
    EStateM HttpException Registry ℕ := fun s =>
  .ok (s.devices.table.rows.countP q) { s with devices :=
    ⟨s.devices.table.modifyWhere q (deactivate env lastSeenAt),
      uniqueOn_of_check.mpr ((uniqueOn_of_check.mp s.devices.valid).modifyWhere_of_le
        fun _ _ _ => .inr rfl)⟩ }

def deactivateForUser (orgId userId : Id) (token : String) : EStateM HttpException Registry ℕ :=
  deactivateWhere env (fun d => d.userId = userId ∧ d.token = token ∧ d.orgId = some orgId)
    (some env.now)

def deactivateByIdForUser (deviceId userId : Id) : EStateM HttpException Registry ℕ :=
  deactivateWhere env (fun d => d.id = deviceId ∧ d.userId = userId) (some env.now)

def deactivateByIds (ids : List Id) : EStateM HttpException Registry ℕ :=
  deactivateWhere env (·.id ∈ ids) none

end Repo

section Service

variable (env : Env)

def tokenRequired : HttpException := .badRequest "Push token is required"

@[irreducible]
def checkToken (provider : PushProvider) (token : String) : Call Unit := do
  Script.throwIf (token = "") tokenRequired
  Script.throwIf (provider = .EXPO ∧ isExpoPushToken token = false)
    (.badRequest "Invalid Expo push token")

def normalizeRegisterPayload (userId : Id) (orgId : Option Id) (dto : RegisterPushDeviceDto) :
    DeviceInput where
  orgId
  userId
  provider := dto.provider
  platform := dto.platform.toOption.getD .UNKNOWN
  token := trimString dto.token
  deviceId := truthy (dto.deviceId.toOption.map trimString)
  appId := truthy (dto.appId.toOption.map trimString)

def registerFor (userId : Id) (orgId : Option Id) (dto : RegisterPushDeviceDto) : Call Unit := do
  checkToken dto.provider (trimString dto.token)
  atomic (register env (normalizeRegisterPayload userId orgId dto))

def registerDevice (userId orgId : Id) (dto : RegisterPushDeviceDto) : Call Unit :=
  registerFor env userId (some orgId) dto

def registerOwnerDevice (userId : Id) (dto : RegisterPushDeviceDto) : Call Unit :=
  registerFor env userId none dto

/-- `null` has no `trim`. -/
def changedText (field : Field String) (current : Option String) : Result (Option String) :=
  match field with
  | .undefined => .ok current
  | .null => .error (.internal "Cannot read properties of null (reading 'trim')")
  | .value text => .ok (truthy (some (trimString text)))

def updateDevice (userId deviceId : Id) (dto : UpdatePushDeviceDto) (orgId : Option Id) :
    Call Unit := do
  let existing ← query fun s =>
    Outcome.orThrow (findByIdForUser s deviceId userId) (.notFound "Push device not found")
  let provider := dto.provider.toOption.getD existing.provider
  let token := (truthy (dto.token.toOption.map trimString)).getD existing.token
  checkToken provider token
  let deviceText ← Script.done (changedText dto.deviceId existing.deviceId)
  let appText ← Script.done (changedText dto.appId existing.appId)
  atomic (updateForUser env deviceId {
    orgId
    userId
    provider
    platform := dto.platform.toOption.getD existing.platform
    token
    deviceId := deviceText
    appId := appText })

def unregisterDevice (userId orgId : Id) (token : String) : Call Unit := do
  Script.throwIf (trimString token = "") tokenRequired
  let _ ← atomic (deactivateForUser env orgId userId (trimString token))
  return ()

def removeDevice (userId deviceId : Id) : Call Unit := do
  let deactivated ← atomic (deactivateByIdForUser env deviceId userId)
  Script.throwIf (deactivated = 0) (.notFound "Push device not found")

inductive DeviceCall
  | registerDevice (userId orgId : Id) (dto : RegisterPushDeviceDto)
  | registerOwnerDevice (userId : Id) (dto : RegisterPushDeviceDto)
  | updateDevice (userId deviceId : Id) (dto : UpdatePushDeviceDto) (orgId : Option Id)
  | unregisterDevice (userId orgId : Id) (token : String)
  | removeDevice (userId deviceId : Id)
  /-- The end of `handleExpoTickets`. -/
  | deactivateByIds (ids : List Id)
deriving DecidableEq

def DeviceCall.script : DeviceCall → Call Unit
  | .registerDevice userId orgId dto => Devices.registerDevice env userId orgId dto
  | .registerOwnerDevice userId dto => Devices.registerOwnerDevice env userId dto
  | .updateDevice userId deviceId dto orgId => Devices.updateDevice env userId deviceId dto orgId
  | .unregisterDevice userId orgId token => Devices.unregisterDevice env userId orgId token
  | .removeDevice userId deviceId => Devices.removeDevice env userId deviceId
  | .deactivateByIds ids => do
    let _ ← atomic (Devices.deactivateByIds env ids)
    return ()

end Service

section Presented

/-- The token that a call hands in for its user. -/
def DeviceCall.Presents (userId : Id) (token : String) : DeviceCall → Prop
  | .registerDevice userId' _ dto => userId' = userId ∧ trimString dto.token = token
  | .registerOwnerDevice userId' dto => userId' = userId ∧ trimString dto.token = token
  | .updateDevice userId' _ dto _ =>
    userId' = userId ∧ ∃ text, dto.token = .value text ∧ trimString text = token
  | _ => False

structure Device.Valid (d : Device) : Prop where
  token : d.token ≠ ""
  expo : d.provider = .EXPO → isExpoPushToken d.token = true

/-- The token is from the start, or a call of the user it stands for has handed it in. -/
def Known (start : Registry) (calls : Set (Env × DeviceCall)) (userId : Id) (token : String) :
    Prop :=
  (∃ d ∈ start.devices, d.userId = userId ∧ d.token = token) ∨
    ∃ c ∈ calls, c.2.Presents userId token

def Sound (start : Registry) (calls : Set (Env × DeviceCall)) (s : Registry) : Prop :=
  ∀ d ∈ s.devices, d.Valid ∧ Known start calls d.userId d.token

structure DeviceInput.Fit (start : Registry) (calls : Set (Env × DeviceCall))
    (input : DeviceInput) : Prop where
  token : input.token ≠ ""
  expo : input.provider = .EXPO → isExpoPushToken input.token = true
  known : Known start calls input.userId input.token

variable {start s : Registry} {calls : Set (Env × DeviceCall)} {env : Env} {input : DeviceInput}
  {userId deviceId : Id} {orgId : Option Id}

theorem DeviceInput.Fit.written (h : input.Fit start calls) (d : Device) :
    ((written env input).apply d).Valid ∧
      Known start calls ((Devices.written env input).apply d).userId
        ((Devices.written env input).apply d).token :=
  ⟨⟨h.token, h.expo⟩, h.known⟩

theorem ends_store {w : Table.Write fun d : Device => d.id} (hs : Sound start calls s)
    (hw : ∀ t, w.apply s.devices.table = (.ok t : Except (Table.WriteError DeviceConstraint) _) →
      ∀ d ∈ t, d ∈ s.devices ∨ d.Valid ∧ Known start calls d.userId d.token) :
    Ends (Sound start calls) (fun _ s' => Sound start calls s' ∧ True) (store w input s) := by
  unfold store
  split_ifs
  · cases hwrite : s.devices.write w with
    | error e => exact hs
    | ok devices =>
      refine ⟨fun d hd => ?_, trivial⟩
      exact (hw devices.table (Constrained.write_eq_ok.mp hwrite) d hd).elim (hs d) id
  · exact hs

theorem ends_updateForUser (hinput : input.Fit start calls) (hs : Sound start calls s) :
    Ends (Sound start calls) (fun _ s' => Sound start calls s' ∧ True)
      (updateForUser env deviceId input s) := by
  refine ends_store hs fun t ht d hd => ?_
  obtain ⟨-, rfl⟩ := Table.apply_update.mp ht
  rcases Table.mem_modify.mp hd with ⟨a, ha, -, rfl⟩ | ⟨hd, -⟩
  · exact .inr (hinput.written a)
  · exact .inl hd

theorem ends_register (hinput : input.Fit start calls) (hs : Sound start calls s) :
    Ends (Sound start calls) (fun _ s' => Sound start calls s' ∧ True) (register env input s) := by
  unfold register
  split
  · exact ends_updateForUser hinput hs
  · refine ends_store hs fun t ht d hd => ?_
    rcases (Table.mem_insert (Table.apply_create.mp ht)).mp hd with hd | rfl
    · exact .inl hd
    · exact .inr ⟨⟨hinput.token, hinput.expo⟩, hinput.known⟩

theorem yields_deactivateWhere (q : Device → Bool) (lastSeenAt : Option TimeValue) :
    (atomic (deactivateWhere env q lastSeenAt)).Yields (Sound start calls) fun _ => True := by
  refine Script.yields_atomic fun s hs => ⟨fun d hd => ?_, trivial⟩
  rcases Table.mem_modifyWhere.mp hd with ⟨a, ha, -, rfl⟩ | ⟨hd, -⟩
  · obtain ⟨hvalid, hknown⟩ := hs a ha
    exact ⟨⟨hvalid.token, hvalid.expo⟩, hknown⟩
  · exact hs d hd

theorem yields_checkToken_bind {α : Type} {provider : PushProvider} {token : String}
    {f : Unit → Call α}
    (h : token ≠ "" → (provider = .EXPO → isExpoPushToken token = true) →
      (f ()).Yields (Sound start calls) fun _ => True) :
    (checkToken provider token >>= f).Yields (Sound start calls) fun _ => True := by
  unfold checkToken
  rw [Script.bind_bind]
  refine Script.yields_throwIf_bind fun hnamed => ?_
  refine Script.yields_throwIf_bind fun hexpo => h hnamed fun hprovider => ?_
  exact Bool.of_not_eq_false fun hinvalid => hexpo ⟨hprovider, hinvalid⟩

theorem registerFor_yields {dto : RegisterPushDeviceDto}
    (hknown : Known start calls userId (trimString dto.token)) :
    (registerFor env userId orgId dto).Yields (Sound start calls) fun _ => True :=
  yields_checkToken_bind fun hnamed hexpo =>
    Script.yields_atomic fun _ hs => ends_register ⟨hnamed, hexpo, hknown⟩ hs

/-- The row was the user's when it was read, so its token is his to keep. -/
theorem updateDevice_yields {dto : UpdatePushDeviceDto}
    (hpresents : ∀ text, dto.token = .value text → Known start calls userId (trimString text)) :
    (updateDevice env userId deviceId dto orgId).Yields (Sound start calls) fun _ => True := by
  refine Script.yields_bind (Script.yields_query (Q := fun existing : Device =>
    Known start calls userId existing.token) fun s existing hs hfound => ?_)
    fun existing hexisting => ?_
  · obtain ⟨hmem, hown⟩ := Table.findFirst_some (Outcome.orThrow_eq_ok.mp hfound)
    obtain ⟨-, rfl⟩ := of_decide_eq_true hown
    exact (hs existing hmem).2
  · refine yields_checkToken_bind fun hnamed hexpo => ?_
    refine Script.yields_bind (Script.yields_done fun _ _ => trivial) fun deviceText _ => ?_
    refine Script.yields_bind (Script.yields_done fun _ _ => trivial) fun appText _ => ?_
    refine Script.yields_atomic fun _ hs => ends_updateForUser ⟨hnamed, hexpo, ?_⟩ hs
    change Known start calls userId ((truthy (dto.token.toOption.map trimString)).getD _)
    cases htoken : truthy (dto.token.toOption.map trimString) with
    | none => exact hexisting
    | some token =>
      obtain ⟨hmap, -⟩ := truthy_eq_some.mp htoken
      obtain ⟨text, htext, rfl⟩ := Option.map_eq_some_iff.mp hmap
      cases hfield : dto.token with
      | undefined => rw [hfield] at htext; cases htext
      | null => rw [hfield] at htext; cases htext
      | value text' =>
        rw [hfield] at htext
        cases htext
        exact hpresents text hfield

theorem script_yields (c : Env × DeviceCall) (hc : c ∈ calls) :
    (c.2.script c.1).Yields (Sound start calls) fun _ => True := by
  obtain ⟨env, call⟩ := c
  cases call with
  | registerDevice userId orgId dto =>
    have hpresents : (DeviceCall.registerDevice userId orgId dto).Presents userId
        (trimString dto.token) := ⟨rfl, rfl⟩
    change (registerFor env userId (some orgId) dto).Yields (Sound start calls) fun _ => True
    exact registerFor_yields (.inr ⟨_, hc, hpresents⟩)
  | registerOwnerDevice userId dto =>
    have hpresents : (DeviceCall.registerOwnerDevice userId dto).Presents userId
        (trimString dto.token) := ⟨rfl, rfl⟩
    change (registerFor env userId none dto).Yields (Sound start calls) fun _ => True
    exact registerFor_yields (.inr ⟨_, hc, hpresents⟩)
  | updateDevice userId deviceId dto orgId =>
    have hpresents : ∀ text, dto.token = .value text →
        (DeviceCall.updateDevice userId deviceId dto orgId).Presents userId (trimString text) :=
      fun text htext => ⟨rfl, text, htext, rfl⟩
    change (Devices.updateDevice env userId deviceId dto orgId).Yields (Sound start calls) fun _ => True
    exact updateDevice_yields fun text htext => .inr ⟨_, hc, hpresents text htext⟩
  | unregisterDevice userId orgId token =>
    refine Script.yields_throwIf_bind fun _ => ?_
    exact Script.yields_bind (yields_deactivateWhere _ _) fun _ _ => Script.yields_pure trivial
  | removeDevice userId deviceId =>
    refine Script.yields_bind (yields_deactivateWhere _ _) fun _ _ => ?_
    exact Script.yields_done fun _ _ => trivial
  | deactivateByIds ids =>
    exact Script.yields_bind (yields_deactivateWhere _ _) fun _ _ => Script.yields_pure trivial

end Presented

section Pushes

variable {s : Registry} {w : Push} {orgId : Id} {userIds : List Id}

/-- The devices as the sending of a push task sees them. -/
def Registry.push (s : Registry) (w : Push) : Push :=
  { w with devices := ⟨s.devices.table.rows.map (·.toPushDevice), by
      rw [List.map_map]
      exact s.devices.table.nodup⟩ }

theorem mem_listActiveForAudience {d : PushDevice} :
    d ∈ listActiveForAudience (s.push w) orgId userIds ↔
      (∃ row ∈ s.devices, row.toPushDevice = d) ∧ d.userId ∈ userIds ∧ d.isActive = true ∧
        inAudience w.directory orgId d.userId = true := by
  unfold listActiveForAudience
  rw [List.mem_filter, decide_eq_true_iff]
  exact and_congr_left fun _ => List.mem_map

/-- However the steps of any number of calls fall between each other, whatever is pushed to an
audience goes to tokens that its own active users handed in, and the check that every token has
the form of the provider holds back none. -/
theorem pushed_tokens_in_turns {π : Type} [DecidableEq π] (calls : π → Env × DeviceCall)
    (hstart : ∀ d ∈ s.devices, d.Valid) (ms : List (π × Unit)) (w : Push) (orgId : Id)
    (userIds : List Id) :
    let devices := listActiveForAudience
      ((Script.inTurns (fun p => (calls p).2.script (calls p).1) s ms).shared.push w) orgId userIds
    expoRecipients devices = devices ∧
      ∀ d ∈ devices, d.userId ∈ userIds ∧ inAudience w.directory orgId d.userId = true ∧
        Known s (Set.range calls) d.userId d.token := by
  have hsound : Sound s (Set.range calls)
      (Script.inTurns (fun p => (calls p).2.script (calls p).1) s ms).shared :=
    (Script.yields_inTurns (fun p => script_yields (calls p) (Set.mem_range_self p))
      (fun d hd => ⟨hstart d hd, .inl ⟨d, hd, rfl, rfl⟩⟩) ms).1
  refine ⟨List.filter_eq_self.mpr fun d hd => ?_, fun d hd => ?_⟩
  · obtain ⟨⟨row, hrow, rfl⟩, -⟩ := mem_listActiveForAudience.mp hd
    have hprovider : row.provider = .EXPO := by cases row.provider; rfl
    exact decide_eq_true ⟨hprovider, (hsound row hrow).1.expo hprovider⟩
  · obtain ⟨⟨row, hrow, rfl⟩, huser, -, haudience⟩ := mem_listActiveForAudience.mp hd
    exact ⟨huser, haudience, (hsound row hrow).2⟩

def sceneDevice : Device where
  id := "device"
  userId := "ann"
  provider := .EXPO
  platform := .IOS
  token := "ExpoPushToken[a]"
  isActive := true
  orgId := none
  deviceId := none
  appId := none
  lastSeenAt := .epoch
  createdAt := .epoch
  updatedAt := .epoch

def sceneRegistry : Registry :=
  ⟨["ann", "ben"], [], ⟨⟨[sceneDevice], List.nodup_singleton _⟩, by decide⟩⟩

theorem sceneRegistry_valid : ∀ d ∈ sceneRegistry.devices, d.Valid := by
  intro d hd
  obtain rfl := List.mem_singleton.mp hd
  exact ⟨by decide, fun _ => by decide⟩

/-- Ben hands in the token of Ann's device while she changes it. -/
def sceneHandover (second : Bool) : Env × DeviceCall :=
  (⟨.epoch, "device2"⟩,
    if second then .registerOwnerDevice "ben" ⟨.EXPO, " ExpoPushToken[a] ", .undefined, .null, .null⟩
    else .updateDevice "ann" "device" ⟨.undefined, .undefined, .undefined, .undefined, .undefined⟩
      none)

def scenePush : Push where
  pushProviderNoop := false
  store := ⟨.empty _, [], [], []⟩
  directory := { Directory.empty with
    users := ⟨[⟨"ben", "ben@x", none, none, some "org", true⟩], List.nodup_singleton _⟩ }
  devices := .empty _
  receipts := []
  sent := []

theorem pushed_tokens_in_turns_scene :
    let devices := listActiveForAudience
      ((Script.inTurns (fun p => (sceneHandover p).2.script (sceneHandover p).1) sceneRegistry
        [(false, ()), (true, ())]).shared.push scenePush) "org" ["ann", "ben"]
    expoRecipients devices = devices ∧
      ∀ d ∈ devices, d.userId ∈ ["ann", "ben"] ∧
        inAudience scenePush.directory "org" d.userId = true ∧
        Known sceneRegistry (Set.range sceneHandover) d.userId d.token :=
  pushed_tokens_in_turns sceneHandover sceneRegistry_valid _ scenePush "org" ["ann", "ben"]

end Pushes

end Towerdesk.Delivery.PushNotifications.Devices
