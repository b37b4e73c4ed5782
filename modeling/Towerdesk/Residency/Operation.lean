import Towerdesk.Parking.Grants
import Towerdesk.Users.Provisioning

/-!
# Leases, parking and users together

Three services write occupancies and parking allocations: those of leases, of parking and
of users. The system they make takes one call after the other on one store.
-/

namespace Towerdesk.Residency

open Leases (Db DbWrite DbError Plan ParkingAllocation MovesOut allocationEnded occupancyEnded)
open Parking (Allocations)
open Users (OrgUserProvisionParams leaves)

inductive Operation
  | lease (op : Leases.Operation)
  | parking (op : Parking.Operation)
  | provision (params : OrgUserProvisionParams)

def call (env : Parking.Env) : Operation → Leases.Service
  | .lease op => Leases.call env.toEnv op
  | .parking op => Parking.call env op
  | .provision params => Users.provisionOrgUser env.toEnv params

def next (c : Parking.Env × Operation) (db : Db) : Db := Transaction.final (call c.1 c.2 db)

def Succeeds (env : Parking.Env) (op : Operation) (db : Db) : Prop :=
  Leases.returned (call env op db) = true

instance (env : Parking.Env) (op : Operation) (db : Db) : Decidable (Succeeds env op db) :=
  inferInstanceAs (Decidable (_ = true))

section Provision

/-- The occupancies that a resident grant ends. -/
def endedBy (params : OrgUserProvisionParams) (userId : Id) (o : Occupancy) : Bool :=
  match params.resident with
  | none => false
  | some grant =>
    match grant.mode.getD .ADD with
    | .ADD => false
    | .MOVE => leaves userId grant.buildingId grant.unitId o
    | .MOVE_OUT => leaves userId grant.buildingId none o

/-- A provisioning ends occupancies of its user and may open another; it touches no lease and
no allocation. -/
structure Provisions (env : Leases.Env) (params : OrgUserProvisionParams) (userId : Id)
    (db db' : Db) : Prop where
  target : ∃ write, Users.targetUser env db params = .ok (userId, write)
  books : ∃ occupancies, db'.books = { db.books with occupancies } ∧
    (occupancies = db.books.occupancies.modifyWhere (endedBy params userId)
        (occupancyEnded env.now env.now) ∨
      ∃ o : Occupancy, o.status = .ACTIVE ∧
        (db.books.occupancies.modifyWhere (endedBy params userId)
          (occupancyEnded env.now env.now)).insert o = some occupancies)

variable {env : Leases.Env} {db db' : Db} {params : OrgUserProvisionParams} {userId : Id}
  {raise : DbError → HttpException} {plan : Plan}

theorem targetUser_quiet {write : Option DbWrite}
    (h : Users.targetUser env db params = .ok (userId, write)) :
    Leases.Plan.IsQuiet (write.map .write).toList := by
  rcases Users.targetUser_write h with rfl | ⟨w, rfl⟩
  · exact Leases.Plan.isQuiet_nil
  · exact Leases.Plan.isQuiet_write rfl Leases.Plan.isQuiet_nil

theorem commit_newOccupancy {o : Occupancy} (opens : Bool)
    (h : Transaction.commit DbWrite.apply raise
      (if opens then [] else [.write (.occupancy (.create o))]) db = .ok db') :
    ∃ occupancies, db'.books = { db.books with occupancies } ∧
      (occupancies = db.books.occupancies ∨ db.books.occupancies.insert o = some occupancies) := by
  split at h
  · obtain rfl := Transaction.commit_nil.mp h
    exact ⟨_, rfl, .inl rfl⟩
  · obtain ⟨db₁, hwrite, h⟩ := Transaction.commit_write.mp h
    obtain ⟨occupancies, hoccupancies, hbooks⟩ := Leases.books_occupancy hwrite
    obtain rfl := Transaction.commit_nil.mp h
    exact ⟨occupancies, hbooks, .inr (Table.apply_create.mp hoccupancies)⟩

theorem commit_endOccupancies {buildingId : Id} {stays : Option Id} {rest : Plan}
    (h : Transaction.commit DbWrite.apply raise
      (.write (Users.endOccupancies env userId buildingId stays) :: rest) db = .ok db') :
    ∃ db₁, db₁.books = { db.books with
        occupancies := db.books.occupancies.modifyWhere (leaves userId buildingId stays)
          (occupancyEnded env.now env.now) } ∧
      Transaction.commit DbWrite.apply raise rest db₁ = .ok db' := by
  obtain ⟨db₁, hwrite, h⟩ := Transaction.commit_write.mp h
  obtain ⟨occupancies, hoccupancies, hbooks⟩ := Leases.books_occupancy hwrite
  rw [Table.apply_updateMany.mp hoccupancies] at hbooks
  exact ⟨db₁, hbooks, h⟩

theorem moveResident_ok {grant : Users.ResidentGrantDto} {moves : Bool}
    (h : Users.moveResident env db userId grant moves = .ok plan) :
    ∃ (unitId : Id) (stays : Bool), grant.unitId = some unitId ∧
      plan = (if moves then
          [.write (Users.endOccupancies env userId grant.buildingId (some unitId))] else []) ++
        if stays then []
        else [.write (.occupancy (.create
          (Users.newOccupancy env userId grant.buildingId unitId)))] := by
  simp only [Users.moveResident, Outcome.bind_eq_ok, Outcome.pure_eq_ok,
    Outcome.orThrow_eq_ok] at h
  obtain ⟨unitId, hunitId, unit, hunit, -, -, -, -, rfl⟩ := h
  have hid : unit.id = unitId := (of_decide_eq_true (Table.findFirst_some hunit).2).1
  rw [hid]
  exact ⟨unitId, _, (truthy_eq_some.mp hunitId).1, rfl⟩

theorem commit_residentGrant
    (hplan : Users.applyResidentGrant env db params.orgId userId params.resident = .ok plan)
    {db₁ : Db} (hbooks : db₁.books = db.books)
    (h : Transaction.commit DbWrite.apply raise plan db₁ = .ok db') :
    ∃ occupancies, db'.books = { db.books with occupancies } ∧
      (occupancies = db.books.occupancies.modifyWhere (endedBy params userId)
          (occupancyEnded env.now env.now) ∨
        ∃ o : Occupancy, o.status = .ACTIVE ∧
          (db.books.occupancies.modifyWhere (endedBy params userId)
            (occupancyEnded env.now env.now)).insert o = some occupancies) := by
  unfold Users.applyResidentGrant at hplan
  split at hplan
  · next hnone =>
    cases hplan
    obtain rfl := Transaction.commit_nil.mp h
    refine ⟨db.books.occupancies, hbooks, .inl (Table.modifyWhere_eq_self fun o _ => ?_).symm⟩
    simp [endedBy, hnone]
  · next grant hgrant =>
    obtain ⟨-, -, hplan⟩ := Outcome.bind_eq_ok.mp hplan
    split at hplan
    · next hmode =>
      cases hplan
      obtain ⟨db₂, hbooks₂, h⟩ := commit_endOccupancies h
      obtain rfl := Transaction.commit_nil.mp h
      rw [hbooks] at hbooks₂
      refine ⟨_, hbooks₂, .inl (Table.modifyWhere_congr fun o _ => ?_)⟩
      simp [endedBy, hgrant, hmode]
    · next hmode =>
      obtain ⟨unitId, stays, hunitId, rfl⟩ := moveResident_ok hplan
      obtain ⟨db₂, hbooks₂, h⟩ := commit_endOccupancies h
      rw [hbooks] at hbooks₂
      obtain ⟨occupancies, hbooks₃, hrows⟩ := commit_newOccupancy stays h
      have hended : db.books.occupancies.modifyWhere (endedBy params userId)
          (occupancyEnded env.now env.now) = db₂.books.occupancies := by
        rw [hbooks₂]
        exact Table.modifyWhere_congr fun o _ => by simp [endedBy, hgrant, hmode, hunitId]
      refine ⟨occupancies, by rw [hbooks₃, hbooks₂], ?_⟩
      rw [hended]
      exact hrows.imp id fun hinsert => ⟨_, rfl, hinsert⟩
    · next hmode =>
      obtain ⟨unitId, stays, hunitId, rfl⟩ := moveResident_ok hplan
      obtain ⟨occupancies, hbooks₃, hrows⟩ := commit_newOccupancy stays h
      have hended : db.books.occupancies.modifyWhere (endedBy params userId)
          (occupancyEnded env.now env.now) = db₁.books.occupancies := by
        rw [hbooks]
        exact Table.modifyWhere_eq_self fun o _ => by simp [endedBy, hgrant, hmode]
      refine ⟨occupancies, by rw [hbooks₃, hbooks], ?_⟩
      rw [hended]
      exact hrows.imp id fun hinsert => ⟨_, rfl, hinsert⟩

theorem provisionOrgUser_does (params : OrgUserProvisionParams) (db : Db) :
    Transaction.Ends (fun db' => db' = db) (fun _ db' => ∃ userId, Provisions env params userId db db')
      (Users.provisionOrgUser env params db) := by
  unfold Users.provisionOrgUser
  refine Transaction.ends_transaction rfl fun plan db' hplan h => ?_
  simp only [Users.provisionPlan, Outcome.bind_eq_ok, Outcome.pure_eq_ok] at hplan
  obtain ⟨⟨userId, write⟩, htarget, -, -, resident, hresident, rfl⟩ := hplan
  obtain ⟨db₁, huser, h⟩ := Transaction.commit_append.mp h
  have hbooks := Leases.commit_quiet (targetUser_quiet htarget) huser
  exact ⟨userId, ⟨write, htarget⟩, commit_residentGrant hresident hbooks h⟩

end Provision

section Steps

variable {env : Parking.Env} {db : Db}

theorem next_of_fails {op : Operation} (h : ¬ Succeeds env op db) : next (env, op) db = db := by
  cases op with
  | lease op => exact Leases.ends_of_thrown (Leases.call_does env.toEnv op db) h
  | parking op => exact Leases.ends_of_thrown (Parking.call_does env op db) h
  | provision params => exact Leases.ends_of_thrown (provisionOrgUser_does params db) h

theorem next_lease {op : Leases.Operation} (h : Succeeds env (.lease op) db) :
    Leases.Effect env.toEnv db (next (env, .lease op) db) op :=
  Leases.next_of_succeeds h

theorem next_moveIn {user : Option AuthenticatedUser} {buildingId : Id} {dto : Leases.MoveInDto}
    (h : Succeeds env (.lease (.moveIn user buildingId dto)) db) :
    ∃ l, Parking.MovesIn env.toEnv user buildingId dto l db
      (next (env, .lease (.moveIn user buildingId dto)) db) :=
  Parking.next_movesIn h

theorem next_parking {op : Parking.Operation} (h : Succeeds env (.parking op) db) :
    Parking.Effect env db (next (env, .parking op) db) op :=
  Leases.ends_of_returned (Parking.call_does env op db) h

theorem next_provision {params : OrgUserProvisionParams} (h : Succeeds env (.provision params) db) :
    ∃ userId, Provisions env.toEnv params userId db (next (env, .provision params) db) :=
  Leases.ends_of_returned (provisionOrgUser_does params db) h

end Steps

end Towerdesk.Residency
