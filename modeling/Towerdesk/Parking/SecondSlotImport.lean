import Towerdesk.Parking.SlotImport
import Towerdesk.Units.BulkCreate

/-!
# Importing parking slots twice

A slot that a row of a file was written into is as the row says, so that the same file finds it
and writes it as it is: a second import in UPSERT mode creates nothing and changes nothing.
-/

namespace Towerdesk.Parking.SlotImport

open Towerdesk.Units (ParsedCsv Platform)

section Rows

variable {env : Env} {db : Db} {orgId buildingId : Id} {mode : ParkingSlotsImportMode}
  {slots front : List (ℕ × CreateParkingSlotDto)} {entry : ℕ × CreateParkingSlotDto}
  {s s' : ImportState} {dto : CreateParkingSlotDto}

theorem updated_updated (slot : Slot) : updated dto (updated dto slot) = updated dto slot := by
  cases hlevel : dto.level <;> cases htype : dto.type <;> cases hcovered : dto.isCovered <;>
    cases hactive : dto.isActive <;> simp [updated, hlevel, htype, hcovered, hactive]

theorem importCreate_updated (h : importCreate env orgId buildingId dto s = .ok s') :
    ∃ slot : Slot, s.slots.table.insert slot = some s'.slots.table ∧
      slotCode slot = some (buildingId, dto.code) ∧ slot.orgId = orgId ∧
        updated dto slot = slot := by
  obtain ⟨type, htype, h⟩ := Outcome.bind_eq_ok.mp h
  obtain ⟨slots, hwrite, h⟩ := Outcome.bind_eq_ok.mp h
  rw [← Outcome.pure_eq_ok.mp h]
  refine ⟨_, Table.apply_create.mp (Constrained.write_eq_ok.mp
    (Outcome.mapError_eq_ok.mp hwrite)), rfl, rfl, ?_⟩
  rw [Outcome.orThrow_eq_ok] at htype
  cases hlevel : dto.level <;> cases hcovered : dto.isCovered <;>
    cases hactive : dto.isActive <;> simp [updated, hlevel, htype, hcovered, hactive]

/-- The organisation has a slot with the code of the row, as the row makes it. -/
def SlotSettled (orgId buildingId : Id) (entry : ℕ × CreateParkingSlotDto)
    (t : Table Slot.id) : Prop :=
  Upsert.Settled slotCode (buildingId, entry.2.code)
    (fun slot => slot.orgId = orgId ∧ updated entry.2 slot = slot) t

/-- Slots stay with their organisations. -/
def OrgsKept (db : Db) (t : Table Slot.id) : Prop :=
  ∀ old ∈ db.slots.table, ∃ slot ∈ t, slot.id = old.id ∧ slot.orgId = old.orgId

theorem importRow_settles (hids : ∀ s ∈ db.slots.table, s.id ≠ "")
    (hchecked : Checked db orgId buildingId mode slots) (hentry : entry ∈ slots)
    (hwritten : Written env db buildingId front s) (hkept : OrgsKept db s.slots.table)
    (h : importRow env db orgId buildingId mode s entry = .ok s') :
    OrgsKept db s'.slots.table ∧ SlotSettled orgId buildingId entry s'.slots.table ∧
      ∀ other, other.2.code ≠ entry.2.code → SlotSettled orgId buildingId other s.slots.table →
        SlotSettled orgId buildingId other s'.slots.table := by
  rw [importRow_eq hids hchecked hentry] at h
  cases hexisting : existingByCode db orgId buildingId entry.2.code with
  | none =>
    rw [hexisting] at h
    obtain ⟨slot, hinsert, hcode, horg, hupdated⟩ := importCreate_updated h
    refine ⟨fun old hold => ?_, Upsert.settled_insert hinsert hcode ⟨horg, hupdated⟩,
      fun other _ hother => hother.insert hinsert⟩
    obtain ⟨kept, hmem, hsame⟩ := hkept old hold
    exact ⟨kept, (Table.mem_insert hinsert).mpr (.inl hmem), hsame⟩
  | some existing =>
    rw [hexisting] at h
    obtain ⟨-, htable, -⟩ := importUpdate_ok h
    obtain ⟨hmem, hcode, horg⟩ := existingByCode_some hexisting
    obtain ⟨current, hcurrent, hid, hsameOrg⟩ := hkept existing hmem
    obtain ⟨current', hcurrent', hid', hsameCode⟩ := hwritten.grown.kept existing hmem
    obtain rfl := Table.eq_of_key_eq hcurrent' hcurrent (hid'.trans hid.symm)
    rw [htable, ← hid]
    refine ⟨fun old hold => ?_, Upsert.settled_modify hcurrent ?_ ⟨hsameOrg.trans horg,
      updated_updated _⟩, fun other hne hother => hother.modify hcurrent fun hsame => hne ?_⟩
    · obtain ⟨kept, hkeptMem, hkeptId, hkeptOrg⟩ := hkept old hold
      by_cases hsame : kept.id = current'.id
      · obtain rfl := Table.eq_of_key_eq hkeptMem hcurrent hsame
        exact ⟨_, Table.apply_mem_modify hcurrent, hkeptId, hkeptOrg⟩
      · exact ⟨kept, Table.mem_modify_of_ne hkeptMem hsame, hkeptId, hkeptOrg⟩
    · have hbuilding := (Prod.mk.inj (Option.some.inj (hsameCode.trans hcode))).1
      change some (current'.buildingId, entry.2.code) = _
      rw [hbuilding]
    · exact (Prod.mk.inj (Option.some.inj (hsame.symm.trans (hsameCode.trans hcode)))).2

theorem importRows_settle {result : ImportState} (hids : ∀ s ∈ db.slots.table, s.id ≠ "")
    (hchecked : Checked db orgId buildingId mode slots)
    (h : importRows env db orgId buildingId mode slots = .ok result) :
    Written env db buildingId slots result ∧
      ∀ entry ∈ slots, SlotSettled orgId buildingId entry result.slots.table := by
  have hinv : ∀ front entry back s s', slots = front ++ entry :: back →
      Written env db buildingId front s ∧ OrgsKept db s.slots.table →
      importRow env db orgId buildingId mode s entry = .ok s' →
      Written env db buildingId (front ++ [entry]) s' ∧ OrgsKept db s'.slots.table := by
    rintro front entry back s s' hslots ⟨hwritten, hkept⟩ hs'
    have hentry := RowImport.mem_of_split hslots
    exact ⟨hwritten.row hids hchecked hentry hs',
      (importRow_settles hids hchecked hentry hwritten hkept hs').1⟩
  have hstart : Written env db buildingId [] ⟨db.slots, [], 0, 0⟩ ∧ OrgsKept db db.slots.table :=
    ⟨written_start env db buildingId, fun old hold => ⟨old, hold, rfl, rfl⟩⟩
  refine ⟨(RowImport.foldlM_inv hinv hstart h).1, RowImport.foldlM_settles
    (Q := fun entry s => SlotSettled orgId buildingId entry s.slots.table) hchecked.codes hinv
    (fun front entry back s s' hslots hfront hs' => ?_) hstart h⟩
  exact (importRow_settles hids hchecked (RowImport.mem_of_split hslots) hfront.1 hfront.2 hs').2

/-- A transaction that has created nothing and changed nothing. -/
structure Idle (db : Db) (s : ImportState) : Prop where
  slots : s.slots = db.slots
  created : s.created = 0

theorem importRow_idle (env : Env) (hids : ∀ s ∈ db.slots.table, s.id ≠ "")
    (hsettled : SlotSettled orgId buildingId entry db.slots.table) (hs : Idle db s) :
    ∃ s', importRow env db orgId buildingId .UPSERT s entry = .ok s' ∧ Idle db s' := by
  obtain ⟨slot, hslot, hcode, horg, hupdated⟩ := hsettled
  obtain ⟨hbuilding, hsameCode⟩ := Prod.mk.inj (Option.some.inj hcode)
  have hexisting : existingByCode db orgId buildingId entry.2.code = some slot := by
    refine (Table.findFirst_eq_some_iff fun v hv w hw hpv hpw => ?_).mpr
      ⟨hslot, decide_eq_true ⟨horg, hbuilding, hsameCode⟩⟩
    have hunique := slotCheck_eq_none_iff.mp db.slots.valid
    obtain ⟨-, hin, hsame⟩ := of_decide_eq_true hpv
    obtain ⟨-, hin', hsame'⟩ := of_decide_eq_true hpw
    refine hunique.eq hv hw (i := (buildingId, entry.2.code)) ?_ ?_
    · rw [slotCode, hin, hsame]
    · rw [slotCode, hin', hsame']
  have hwrite : s.slots.write (.update slot.id (updatedPatch entry.2)) = .ok s.slots := by
    rw [Constrained.write_eq_ok, hs.slots, Table.apply_update]
    exact ⟨⟨slot, hslot, rfl⟩, (Table.modify_eq_self hslot hupdated).symm⟩
  refine ⟨{ s with slotIds := s.slotIds ++ [slot.id], updated := s.updated + 1 }, ?_,
    hs.slots, hs.created⟩
  unfold importRow
  rw [hexisting, Option.filter_some, if_pos (decide_eq_true (hids slot hslot))]
  exact Outcome.bind_eq_ok.mpr ⟨s.slots, Outcome.mapError_eq_ok.mpr hwrite, rfl⟩

theorem importRows_idle (env : Env) (hids : ∀ s ∈ db.slots.table, s.id ≠ "")
    (h : ∀ entry ∈ slots, SlotSettled orgId buildingId entry db.slots.table) :
    ∃ result, importRows env db orgId buildingId .UPSERT slots = .ok result ∧
      Idle db result := by
  refine RowImport.foldlM_keeps (fun entry hentry s hs => ?_) ⟨rfl, rfl⟩
  exact importRow_idle env hids (h entry hentry) hs

end Rows

section Runs

variable {env env' : Env} {db : Db} {user : Option AuthenticatedUser} {orgId buildingId : Id}
  {building : Building} {file : Option ParsedCsv} {parsed : ParsedCsv}
  {mode : ParkingSlotsImportMode} {run : Db × ℕ}

/-- The store behind an import that is no dry run, and how many slots it has created. -/
def createdRun (env : Env) (user : Option AuthenticatedUser) (buildingId : Id)
    (file : Option ParsedCsv) (mode : ParkingSlotsImportMode) (db : Db) : Result (Db × ℕ) :=
  (fun run => (run.1, run.2.summary.created)) <$>
    importSlotsCsv env db user buildingId file (some mode) false

def ImportState.stored (db : Db) (result : ImportState) : Db × ℕ :=
  ({ db with slots := result.slots }, result.created)

/-- The import of a file for a building of the caller. -/
def fileRun (env : Env) (orgId buildingId : Id) (parsed : ParsedCsv)
    (mode : ParkingSlotsImportMode) (db : Db) : Result (Db × ℕ) :=
  RowImport.guardedRun db (findings env.platform db orgId buildingId mode parsed).2.2
    (ImportState.stored db <$> importRows env db orgId buildingId mode
      (parsedSlots env.platform parsed).slots)

theorem createdRun_eq (hscope : assertOrgScope user = .ok orgId)
    (hbuilding : findBuilding db orgId buildingId = .ok building) :
    createdRun env user buildingId (some parsed) mode db =
      fileRun env orgId buildingId parsed mode db := by
  rw [createdRun, importSlotsCsv_eq hscope hbuilding, fileRun, RowImport.guardedRun]
  dsimp only [Option.getD_some]
  by_cases hfindings : (findings env.platform db orgId buildingId mode parsed).2.2 = []
  · rw [if_neg (not_or.mpr ⟨Bool.false_ne_true, not_not.mpr hfindings⟩), if_pos hfindings]
    cases importRows env db orgId buildingId mode (parsedSlots env.platform parsed).slots <;> rfl
  · rw [if_pos (.inr hfindings), if_neg hfindings]
    rfl

theorem createdRun_bind : createdRun env user buildingId file mode = fun db =>
    assertOrgScope user >>= fun orgId => findBuilding db orgId buildingId >>= fun _ =>
      Outcome.orThrow file (.badRequest "CSV file is required") >>= fun parsed =>
        fileRun env orgId buildingId parsed mode db := by
  funext db
  exact importSlotsCsv_bind fun orgId building parsed hscope hbuilding =>
    createdRun_eq hscope hbuilding

theorem fileRun_buildings (h : fileRun env orgId buildingId parsed mode db = .ok run) :
    run.1.buildings = db.buildings := by
  obtain ⟨-, hwrite⟩ | ⟨-, rfl⟩ := RowImport.guardedRun_eq_ok.mp h
  · obtain ⟨result, -, rfl⟩ := Outcome.map_eq_ok.mp hwrite
    rfl
  · rfl

theorem fileRun_idle (hids : ∀ s ∈ db.slots.table, s.id ≠ "")
    (hsettled : ∀ entry ∈ (parsedSlots env.platform parsed).slots,
      SlotSettled orgId buildingId entry db.slots.table) :
    fileRun env orgId buildingId parsed .UPSERT db = .ok (db, 0) := by
  obtain ⟨result, hresult, hidle⟩ := importRows_idle env hids hsettled
  refine RowImport.guardedRun_of_write (Outcome.map_eq_ok.mpr ⟨result, hresult, ?_⟩)
  rw [ImportState.stored, hidle.slots, hidle.created]

/-- Behind a run without errors the same file finds everything written. -/
theorem fileRun_settles (hplatform : env'.platform = env.platform)
    (hids : ∀ s ∈ db.slots.table, s.id ≠ "") (hnew : ∀ n, env.importedId n ≠ "")
    (hclean : Clean env.platform db orgId buildingId mode parsed)
    (h : fileRun env orgId buildingId parsed mode db = .ok run) :
    fileRun env' orgId buildingId parsed .UPSERT run.1 = .ok (run.1, 0) := by
  obtain ⟨-, hwrite⟩ | ⟨hfindings, -⟩ := RowImport.guardedRun_eq_ok.mp h
  · obtain ⟨result, hresult, rfl⟩ := Outcome.map_eq_ok.mp hwrite
    obtain ⟨hwritten, hsettled⟩ := importRows_settle hids (checked_of_clean hclean) hresult
    refine fileRun_idle (fun slot hslot => ?_) ?_
    · obtain ⟨old, hold, hsame⟩ | ⟨n, -, hsame⟩ := hwritten.grown.keys slot hslot
      · exact hsame ▸ hids old hold
      · exact hsame ▸ hnew n
    · rw [hplatform]
      exact hsettled
  · exact absurd (findings_eq_nil_iff.mpr hclean) hfindings

/-- Behind a run in UPSERT mode the same file is written already, or refused as it was. -/
theorem fileRun_again (hplatform : env'.platform = env.platform)
    (hids : ∀ s ∈ db.slots.table, s.id ≠ "") (hnew : ∀ n, env.importedId n ≠ "")
    (h : fileRun env orgId buildingId parsed .UPSERT db = .ok run) :
    fileRun env' orgId buildingId parsed .UPSERT run.1 = .ok (run.1, 0) := by
  by_cases hfindings : (findings env.platform db orgId buildingId .UPSERT parsed).2.2 = []
  · exact fileRun_settles hplatform hids hnew (findings_eq_nil_iff.mp hfindings) h
  · obtain ⟨hnil, -⟩ | ⟨-, rfl⟩ := RowImport.guardedRun_eq_ok.mp h
    · exact absurd hnil hfindings
    · rw [← hplatform] at hfindings
      exact if_neg hfindings

theorem exists_fileRun_iff (hfresh : Upsert.FreshKeys env.importedId db.slots.table)
    (hids : ∀ s ∈ db.slots.table, s.id ≠ "") :
    (∃ run, fileRun env orgId buildingId parsed mode db = .ok run) ↔
      (Clean env.platform db orgId buildingId mode parsed →
        ∀ entry ∈ (parsedSlots env.platform parsed).slots,
          OwnCode db orgId buildingId entry.2.code) := by
  rw [fileRun, RowImport.exists_guardedRun_iff, findings_eq_nil_iff]
  refine forall_congr' fun hclean => ?_
  rw [RowImport.exists_map_ok, importRows_ok_iff hfresh hids (checked_of_clean hclean)]

theorem fileRun_twice (hplatform : env'.platform = env.platform)
    (hfresh : Upsert.FreshKeys env.importedId db.slots.table)
    (hfresh' : Upsert.FreshKeys env'.importedId db.slots.table)
    (hids : ∀ s ∈ db.slots.table, s.id ≠ "") (hnew : ∀ n, env.importedId n ≠ "") :
    RowImport.Settles (fileRun env orgId buildingId parsed .UPSERT)
      (fileRun env' orgId buildingId parsed .UPSERT) db where
  again run hrun := fileRun_again hplatform hids hnew hrun
  throws e hrun := by
    refine RowImport.throws_of_ok_iff (fun hsecond => ?_) hrun
    have hown := (exists_fileRun_iff hfresh' hids).mp hsecond
    rw [hplatform] at hown
    exact (exists_fileRun_iff hfresh hids).mpr hown

/-- Of two imports of a file in UPSERT mode the second leaves everything as it is. -/
theorem second_slot_import_settles (hplatform : env'.platform = env.platform)
    (hfresh : Upsert.FreshKeys env.importedId db.slots.table)
    (hfresh' : Upsert.FreshKeys env'.importedId db.slots.table)
    (hids : ∀ s ∈ db.slots.table, s.id ≠ "") (hnew : ∀ n, env.importedId n ≠ "") :
    RowImport.Settles (createdRun env user buildingId file .UPSERT)
      (createdRun env' user buildingId file .UPSERT) db := by
  rw [createdRun_bind, createdRun_bind]
  refine RowImport.settles_bind (fun _ _ _ => rfl) fun orgId _ =>
    RowImport.settles_bind (fun building run hrun => ?_) fun building _ =>
    RowImport.settles_bind (fun _ _ _ => rfl) fun parsed _ =>
    fileRun_twice hplatform hfresh hfresh' hids hnew
  obtain ⟨parsed, -, hfile⟩ := Outcome.bind_eq_ok.mp hrun
  rw [findBuilding, fileRun_buildings hfile]
  rfl

end Runs

section Both

variable {unitEnv unitEnv' : Units.Env} {unitDb : Units.Db} {env env' : Env} {db : Db}

/-- An import of units does what their single creations do, or nothing, and imports of units and of
slots are settled by one run. -/
theorem imports_refine_creates (unitEnvs : ℕ → Units.Env) (hreferential : unitDb.Referential)
    (hunits : Upsert.FreshKeys unitEnv.importedId unitDb.units.table)
    (hunits' : Upsert.FreshKeys unitEnv'.importedId unitDb.units.table)
    (hsingle : Upsert.FreshKeys (fun k => (unitEnvs k).unitId) unitDb.units.table)
    (hunitPlatform : unitEnv'.platform = unitEnv.platform)
    (hslots : Upsert.FreshKeys env.importedId db.slots.table)
    (hslots' : Upsert.FreshKeys env'.importedId db.slots.table)
    (hids : ∀ s ∈ db.slots.table, s.id ≠ "") (hnew : ∀ n, env.importedId n ≠ "")
    (hplatform : env'.platform = env.platform) (user : Option AuthenticatedUser)
    (buildingId : Id) (file : Option ParsedCsv) :
    (Units.NoErrors unitEnv unitDb user buildingId file .CREATE →
        Units.RefinesCreates unitEnv unitEnvs unitDb user buildingId file) ∧
      RowImport.Settles (Units.createdRun unitEnv user buildingId file .UPSERT)
          (Units.createdRun unitEnv' user buildingId file .UPSERT) unitDb ∧
        RowImport.Settles (createdRun env user buildingId file .UPSERT)
          (createdRun env' user buildingId file .UPSERT) db :=
  ⟨Units.import_refines_creates hreferential hunits hsingle,
    Units.second_import_settles hunitPlatform hunits hunits',
    second_slot_import_settles hplatform hslots hslots' hids hnew⟩

/-- Two floors that fit, and one of eleven digits behind one that fits. -/
def floors : ParsedCsv := Units.parseCsv "label,floor\nA-101,1\nA-102,2"

def highFloors : ParsedCsv := Units.parseCsv "label,floor\nA-101,1\nA-102,99999999999"

/-- The calls that create one unit each. -/
def singleEnvs (k : ℕ) : Units.Env := { towerEnv with unitId := tallyId k }

def tallyEnv : Env := ⟨Units.asciiPlatform, fun n => tallyId (n + 1)⟩

theorem floors_refine_creates :
    Units.RefinesCreates towerEnv singleEnvs Units.furnishedTower (some ⟨"manager", some "org"⟩)
        "tower" (some floors) ∧
      RowImport.Settles
          (Units.createdRun towerEnv (some ⟨"manager", some "org"⟩) "tower" (some floors) .UPSERT)
          (Units.createdRun towerEnv (some ⟨"manager", some "org"⟩) "tower" (some floors) .UPSERT)
          Units.furnishedTower ∧
        RowImport.Settles
          (createdRun tallyEnv (some ⟨"manager", some "org"⟩) "tower" (some floors) .UPSERT)
          (createdRun tallyEnv (some ⟨"manager", some "org"⟩) "tower" (some floors) .UPSERT)
          emptyGarage := by
  have hfresh : Upsert.FreshKeys towerEnv.importedId Units.furnishedTower.units.table :=
    ⟨fun _ _ ha => absurd ha (Table.not_mem_empty _), tallyId_injective⟩
  have hslots : Upsert.FreshKeys tallyEnv.importedId emptyGarage.slots.table :=
    ⟨fun _ _ ha => absurd ha (Table.not_mem_empty _),
      fun m n h => Nat.succ_injective (tallyId_injective _ _ h)⟩
  have hreferential : Units.furnishedTower.Referential :=
    ⟨fun _ ha => absurd ha (Table.not_mem_empty _), fun _ ho => absurd ho (Table.not_mem_empty _)⟩
  obtain ⟨hcreates, hsettles⟩ := imports_refine_creates singleEnvs hreferential hfresh hfresh
    hfresh rfl hslots hslots (fun _ hs => absurd hs (Table.not_mem_empty _))
    (fun n h => Nat.succ_ne_zero n (tallyId_injective _ _ h)) rfl
    (some ⟨"manager", some "org"⟩) "tower" (some floors)
  have herrors : Units.NoErrors towerEnv Units.furnishedTower (some ⟨"manager", some "org"⟩)
      "tower" (some floors) .CREATE := by
    rw [Units.NoErrors]
    decide +kernel
  exact ⟨hcreates herrors, hsettles⟩

/-- The import leaves no unit, and the single creations leave the first. -/
theorem highFloors_not_refined :
    Units.NoErrors towerEnv Units.furnishedTower (some ⟨"manager", some "org"⟩) "tower"
        (some highFloors) .CREATE ∧
      ¬ Units.SameUpToIds Units.furnishedTower "tower"
        (Units.imported towerEnv Units.furnishedTower (some ⟨"manager", some "org"⟩) "tower"
          (some highFloors) .CREATE)
        (Units.createEach singleEnvs Units.furnishedTower (some ⟨"manager", some "org"⟩) "tower"
          (Units.fileForms Units.asciiPlatform Units.furnishedTower
            (some ⟨"manager", some "org"⟩) (some highFloors))) := by
  constructor
  · rw [Units.NoErrors]
    decide +kernel
  · intro h
    have hlength := h.length
    revert hlength
    decide +kernel

end Both

end Towerdesk.Parking.SlotImport
