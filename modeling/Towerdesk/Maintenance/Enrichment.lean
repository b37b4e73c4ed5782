import Towerdesk.Maintenance.TenancyContext

/-!
# Requests with their contexts

A request is handed out with the context of its requester and that of its tenancy. A list of
requests, whatever organisations, requesters and units it mixes and however often one request
stands in it, is handed out with the contexts each request has alone.
-/

namespace Towerdesk.Maintenance.Enrichment

open Leases.Timeline (isUuid)

/-- What is asked of a request that is to be handed out with its contexts. -/
structure RequestFields where
  id : Id
  orgId : Id
  buildingId : Id
  createdByUserId : Id
  createdAt : Date
  unitId : Option Id
  occupancyIdAtCreation : Option Id
  leaseIdAtCreation : Option Id
deriving DecidableEq

namespace RequestFields

variable (request : RequestFields)

def requesterContextSource : RequesterContextSource where
  requestId := request.id
  orgId := request.orgId
  requesterUserId := request.createdByUserId
  unitId := request.unitId

def requestTenancyContextSource : RequestTenancyContextSource where
  requestId := request.id
  orgId := request.orgId
  requesterUserId := request.createdByUserId
  createdAt := request.createdAt
  buildingId := some request.buildingId
  unitId := request.unitId
  occupancyIdAtCreation := request.occupancyIdAtCreation
  leaseIdAtCreation := request.leaseIdAtCreation

/-- The columns of a stored request. -/
def ofRow (request : MaintenanceRequest) : RequestFields where
  id := request.id
  orgId := request.orgId
  buildingId := request.buildingId
  createdByUserId := request.createdByUserId
  createdAt := request.createdAt
  unitId := request.unitId
  occupancyIdAtCreation := request.occupancyIdAtCreation
  leaseIdAtCreation := request.leaseIdAtCreation

end RequestFields

/-- A request with what is attached to it. -/
structure WithContexts (T : Type*) where
  request : T
  requesterContext : RequesterContextResponse
  requestTenancyContext : RequestTenancyContextResponse
deriving DecidableEq

section Service

variable {ι : Type*} [LinearOrder ι] (collate : Id ↪ ι) (db : Db) {T : Type*}
variable (fields : T → RequestFields) (now : Date)

def attachContexts (contextByRequestId : Id → Option RequesterContextResponse)
    (tenancyContextByRequestId : Id → Option RequestTenancyContextResponse) (request : T) :
    WithContexts T where
  request
  requesterContext := getRequesterContextOrDefault contextByRequestId (fields request).id
  requestTenancyContext :=
    getRequestTenancyContextOrDefault tenancyContextByRequestId (fields request).id

def withRequesterContext (request : T) : WithContexts T :=
  attachContexts fields
    (buildRequesterContextMap collate db [(fields request).requesterContextSource] now)
    (buildRequestTenancyContextMap collate db [(fields request).requestTenancyContextSource])
    request

def withRequesterContextList (requests : List T) : List (WithContexts T) :=
  if requests.length = 0 then []
  else requests.map (attachContexts fields
    (buildRequesterContextMap collate db
      (requests.map fun r => (fields r).requesterContextSource) now)
    (buildRequestTenancyContextMap collate db
      (requests.map fun r => (fields r).requestTenancyContextSource)))

end Service

/-- Requests read from one table: an id belongs to one row, and an organisation has the uuid
the schema gives it. -/
structure ReadTogether {T : Type*} (fields : T → RequestFields) (requests : List T) : Prop where
  rows : ∀ a ∈ requests, ∀ b ∈ requests, (fields a).id = (fields b).id → fields a = fields b
  orgs : ∀ r ∈ requests, isUuid (fields r).orgId = true

section Batch

variable {ι : Type*} [LinearOrder ι] {collate : Id ↪ ι} {db : Db} {T : Type*}
variable {fields : T → RequestFields} {requests : List T} {now : Date} {request : T}

theorem ReadTogether.of_table {table : Table MaintenanceRequest.id} {row : T → MaintenanceRequest}
    (hrows : ∀ r ∈ requests, row r ∈ table) (horgs : ∀ r ∈ table, isUuid r.orgId = true) :
    ReadTogether (fun r => .ofRow (row r)) requests where
  rows a ha b hb hid := congrArg RequestFields.ofRow
    (Table.eq_of_key_eq (hrows a ha) (hrows b hb) hid)
  orgs r hr := horgs (row r) (hrows r hr)

theorem ReadTogether.consistent {σ : Type*} {source : RequestFields → σ} {requestId : σ → Id}
    (h : ReadTogether fields requests) (hid : ∀ r, requestId (source r) = r.id) :
    Regroup.Consistent requestId (requests.map fun r => source (fields r)) := by
  intro a ha b hb hab
  obtain ⟨r, hr, rfl⟩ := List.mem_map.mp ha
  obtain ⟨r', hr', rfl⟩ := List.mem_map.mp hb
  rw [hid, hid] at hab
  rw [h.rows r hr r' hr' hab]

theorem ReadTogether.requesterContext_eq (h : ReadTogether fields requests)
    (hr : request ∈ requests) :
    buildRequesterContextMap collate db (requests.map fun r => (fields r).requesterContextSource)
        now (fields request).id =
      buildRequesterContextMap collate db [(fields request).requesterContextSource] now
        (fields request).id := by
  have hconsistent : Regroup.Consistent (·.requestId)
      (requests.map fun r => (fields r).requesterContextSource) := h.consistent fun _ => rfl
  have horgs : ∀ s ∈ requests.map fun r => (fields r).requesterContextSource,
      isUuid s.orgId = true := List.forall_mem_map.mpr h.orgs
  exact (buildRequesterContextMap_answers now).alone hconsistent horgs (List.mem_map_of_mem hr)

theorem ReadTogether.tenancyContext_eq (h : ReadTogether fields requests)
    (hr : request ∈ requests) :
    buildRequestTenancyContextMap collate db
        (requests.map fun r => (fields r).requestTenancyContextSource) (fields request).id =
      buildRequestTenancyContextMap collate db [(fields request).requestTenancyContextSource]
        (fields request).id := by
  have hconsistent : Regroup.Consistent (·.requestId)
      (requests.map fun r => (fields r).requestTenancyContextSource) := h.consistent fun _ => rfl
  have horgs : ∀ s ∈ requests.map fun r => (fields r).requestTenancyContextSource,
      isUuid s.orgId = true := List.forall_mem_map.mpr h.orgs
  exact buildRequestTenancyContextMap_answers.alone hconsistent horgs (List.mem_map_of_mem hr)

theorem ReadTogether.attachContexts_eq (h : ReadTogether fields requests)
    (hr : request ∈ requests) :
    attachContexts fields
        (buildRequesterContextMap collate db
          (requests.map fun r => (fields r).requesterContextSource) now)
        (buildRequestTenancyContextMap collate db
          (requests.map fun r => (fields r).requestTenancyContextSource)) request =
      withRequesterContext collate db fields now request := by
  rw [withRequesterContext, attachContexts, attachContexts, getRequesterContextOrDefault,
    getRequesterContextOrDefault, getRequestTenancyContextOrDefault,
    getRequestTenancyContextOrDefault, h.requesterContext_eq hr, h.tenancyContext_eq hr]

/-- A list is handed out as its requests are one by one. -/
theorem withRequesterContextList_eq_map (h : ReadTogether fields requests) :
    withRequesterContextList collate db fields now requests =
      requests.map (withRequesterContext collate db fields now) := by
  rw [withRequesterContextList]
  split
  next hnil => rw [List.length_eq_zero_iff.mp hnil, List.map_nil]
  next => exact List.map_congr_left fun request hr => h.attachContexts_eq hr

end Batch

section Neighbours

def marina : Id := "7f1c0c4e-3b52-4f0e-9d55-0c9a1b2e3d40"

def creek : Id := "1b9d6bcd-bbfd-4b2d-9b5d-ab8dfbbd4bed"

/-- One resident in two organisations, with a neighbour in the second. -/
def neighbours : Db where
  buildings := ⟨[⟨"pier", marina, "Pier", "Dubai"⟩, ⟨"souk", creek, "Souk", "Dubai"⟩], by decide⟩
  users := ⟨[⟨"amal", "amal@example.com", some "Amal", none, some marina, true⟩,
    ⟨"basim", "basim@example.com", none, none, some creek, true⟩], by decide⟩
  occupancies := ⟨[⟨"first", "pier", "1A", "amal", .ENDED, 0, some 50, 0, 50⟩,
    ⟨"second", "souk", "2B", "amal", .ACTIVE, 60, none, 60, 60⟩,
    ⟨"third", "souk", "3C", "basim", .ACTIVE, 70, none, 70, 70⟩], by decide⟩
  leases := .empty _
  residentProfiles := .empty _
  residentInvites := .empty _
  buildingOrg := by decide +kernel
  leaseOrg l hl := absurd hl (Table.not_mem_empty l)
  profileOrg p hp := absurd hp (Table.not_mem_empty p)
  inviteOrg i hi := absurd hi (Table.not_mem_empty i)

def leak : RequestFields := ⟨"leak", marina, "pier", "amal", 20, some "1A", none, none⟩

def noise : RequestFields := ⟨"noise", creek, "souk", "amal", 80, some "3C", none, none⟩

theorem readTogether_neighbours : ReadTogether id [leak, noise, leak] where
  rows := by decide
  orgs := by decide +kernel

theorem neighbours_eq_map :
    withRequesterContextList (Function.Embedding.refl String) neighbours id 90
        [leak, noise, leak] =
      [leak, noise, leak].map
        (withRequesterContext (Function.Embedding.refl String) neighbours id 90) :=
  withRequesterContextList_eq_map readTogether_neighbours

end Neighbours

end Towerdesk.Maintenance.Enrichment
