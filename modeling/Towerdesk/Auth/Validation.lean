import Towerdesk.Lib.Turns
import Towerdesk.Access.Guard
import Towerdesk.Portals

/-!
# Who a token speaks for

A verified token names a user, and the user has to be there and active. A user of an
organisation acts in it; a user of none acts in no organisation, or, as a platform
superadmin, in the one that the request names.
-/

namespace Towerdesk.AuthValidation

open Access (JsonValue)
open Script (query)

section OrgScope

def isHex (c : Char) : Bool :=
  ('0' ≤ c && c ≤ '9') || ('a' ≤ c && c ≤ 'f') || ('A' ≤ c && c ≤ 'F')

/-- The expression `uuidV4ish`. -/
def isUuid (text : String) : Bool :=
  text.toList.length = 36 && text.toList.zipIdx.all fun (c, index) =>
    if index ∈ [8, 13, 18, 23] then c = '-' else isHex c

def invalidOrgScope : HttpException := .badRequest "Invalid org scope"

def parseOrgIdOverride : Option JsonValue → Result (Option Id)
  | none => .ok none
  | some .null => .ok none
  | some value => do
    let raw ← Outcome.orThrow
      ((match value with
        | .array items => items.head?
        | other => some other).bind JsonValue.asString) invalidOrgScope
    let trimmed := trimString raw
    if trimmed = "" then return none
    else do
      Outcome.throwIf (!isUuid trimmed) invalidOrgScope
      return some trimmed

end OrgScope

section Lookups

variable (w : World)

def getRoleKeys (userId : Id) (orgId : Option Id) : List String :=
  w.access.userAccessAssignments.rows.filterMap fun a => do
    let roleTemplate ← w.access.roleTemplates.findUnique a.roleTemplateId
    guard (a.userId = userId ∧ a.scopeType = .ORG ∧ a.scopeId = none ∧
      roleTemplate.orgId = orgId ∧ roleTemplate.scopeType = .ORG)
    return roleTemplate.key

/-- `OwnerPortfolioScopeService.listAccessibleOrgIds`. -/
def listAccessibleOrgIds (localeCompare : String → String → Ordering) (userId : Id) : List Id :=
  ((w.activeOwnerIds userId).filterMap fun ownerId =>
      truthy ((w.directory.owners.findUnique ownerId).map (·.orgId))).eraseDups.insertionSort
    fun a b => (localeCompare a b).isLE = true

def findActiveUser (userId : Id) : Option User :=
  (w.directory.users.findUnique userId).filter (·.isActive)

end Lookups

section Payload

variable {σ : Type} (tables : σ → World)

def unauthorized : HttpException := .unauthorized "Unauthorized"

def validatePayload (userId : Id) (orgIdOverride : Option Id) :
    Script σ HttpException AuthenticatedUser := do
  let user ← query fun s => Outcome.orThrow (findActiveUser (tables s) userId) unauthorized
  if truthy user.orgId = none ∧ truthy orgIdOverride ≠ none then do
    let roleKeys ← query fun s => .ok (getRoleKeys (tables s) user.id none)
    if "platform_superadmin" ∈ roleKeys then return ⟨user.id, orgIdOverride⟩
    else Script.done (.error unauthorized)
  else return ⟨user.id, user.orgId⟩

def getOrgIdOverride (orgIdHeader : Option JsonValue) : Result (Option Id) :=
  match (match orgIdHeader with
    | some (.array items) => items.head?
    | headerValue => headerValue) with
  | some (.string "") => .ok none
  | orgId => parseOrgIdOverride orgId

/-- `JwtStrategy.validate`, behind `JwtAuthGuard`. -/
def validate (userId : Id) (orgIdHeader : Option JsonValue) :
    Script σ HttpException AuthenticatedUser := do
  let orgIdOverride ← Script.done (getOrgIdOverride orgIdHeader)
  validatePayload tables userId orgIdOverride

end Payload

section Guards

/-- `OrgScopeGuard`. -/
def orgScopeGuard (user : Option AuthenticatedUser) : Result Unit := do
  let _ ← assertUserId user
  let _ ← assertOrgScope user
  return ()

/-- `OwnerPortfolioGuard`, with `hasActiveOwnerAccess`. -/
def ownerPortfolioGuard (w : World) (user : Option AuthenticatedUser) : Result Unit := do
  let userId ← assertUserId user
  Outcome.throwIf (w.activeOwnerIds userId = [])
    (.forbidden "Owner portfolio access not granted")

end Guards

section Scope

variable {w : World} {text : String} {value : Option JsonValue} {orgId userId : Id}
  {localeCompare : String → String → Ordering}

theorem colon_not_mem_of_isUuid (h : isUuid text = true) : ':' ∉ text.toList := by
  intro hmem
  obtain ⟨index, hindex, hcolon⟩ := List.getElem_of_mem hmem
  simp only [isUuid, Bool.and_eq_true, List.all_eq_true] at h
  have hat := h.2 (text.toList[index], index)
    (List.mk_mem_zipIdx_iff_getElem?.mpr (List.getElem?_eq_getElem hindex))
  rw [hcolon] at hat
  revert hat
  dsimp only
  split_ifs <;> simp [isHex]

theorem parseOrgIdOverride_plain (h : parseOrgIdOverride value = .ok (some orgId)) :
    orgId ≠ "" ∧ ':' ∉ orgId.toList := by
  have hparsed : ∀ raw : Option JsonValue, (do
      let raw ← Outcome.orThrow (raw.bind JsonValue.asString) invalidOrgScope
      let trimmed := trimString raw
      if trimmed = "" then return none
      else do
        Outcome.throwIf (!isUuid trimmed) invalidOrgScope
        return some trimmed : Result (Option Id)) = .ok (some orgId) →
      orgId ≠ "" ∧ ':' ∉ orgId.toList := by
    intro raw hraw
    obtain ⟨text, -, hrest⟩ := Outcome.bind_eq_ok.mp hraw
    dsimp only at hrest
    split_ifs at hrest with hempty
    · cases hrest
    · obtain ⟨_, hvalid, hsome⟩ := Outcome.bind_eq_ok.mp hrest
      cases hsome
      have huuid : isUuid (trimString text) = true := by
        simpa using Outcome.throwIf_eq_ok.mp hvalid
      exact ⟨hempty, colon_not_mem_of_isUuid huuid⟩
  cases value with
  | none => cases h
  | some value =>
    cases value with
    | null => cases h
    | boolean b => exact hparsed (some (.boolean b)) h
    | number q => exact hparsed (some (.number q)) h
    | string s => exact hparsed (some (.string s)) h
    | array items => exact hparsed items.head? h
    | object fields => exact hparsed (some (.object fields)) h

theorem mem_listAccessibleOrgIds :
    orgId ∈ listAccessibleOrgIds w localeCompare userId ↔
      ∃ owner ∈ w.directory.owners, owner.id ∈ w.activeOwnerIds userId ∧ owner.orgId = orgId ∧
        orgId ≠ "" := by
  rw [listAccessibleOrgIds, List.mem_insertionSort, List.mem_eraseDups, List.mem_filterMap]
  constructor
  · rintro ⟨ownerId, hactive, horg⟩
    obtain ⟨hmap, hnamed⟩ := truthy_eq_some.mp horg
    obtain ⟨owner, hfind, rfl⟩ := Option.map_eq_some_iff.mp hmap
    obtain ⟨howner, rfl⟩ := Table.findUnique_eq_some.mp hfind
    exact ⟨owner, howner, hactive, rfl, hnamed⟩
  · rintro ⟨owner, howner, hactive, rfl, hnamed⟩
    refine ⟨owner.id, hactive, truthy_eq_some.mpr ⟨?_, hnamed⟩⟩
    rw [Table.findUnique_eq_some.mpr ⟨howner, rfl⟩]
    rfl

theorem findActiveUser_eq_some {user : User} :
    findActiveUser w userId = some user ↔
      user ∈ w.directory.users ∧ user.id = userId ∧ user.isActive = true := by
  rw [findActiveUser, Option.filter_eq_some_iff, Table.findUnique_eq_some, and_assoc]

end Scope

end Towerdesk.AuthValidation
