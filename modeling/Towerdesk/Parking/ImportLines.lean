import Towerdesk.Lib.Places
import Towerdesk.Parking.SlotImport

/-!
# The lines that import errors point at

The parser leaves out empty lines before the rows are numbered, and the two imports number a row
by its place among those that are left, counted from two. So an error carries the line of its
record in the file exactly where no empty line stands above the record.
-/

namespace Towerdesk

open Towerdesk.Units (ParsedCsv Platform normalized trimEnd csvLines parseCsv)

namespace ImportLines

def physicalLines (input : String) : List (List Char) := (normalized input.toList).splitOn '\n'

/-- What is left of the line is not empty. -/
def isRecord (line : List Char) : Bool := trimEnd line ≠ []

/-- The line in the file, counted from one, of the record at this index below the header. -/
def lineNumber (input : String) (i : ℕ) : Option ℕ :=
  Places.place isRecord (physicalLines input) (i + 1)

/-- A line that is empty, or has nothing but white space, stands above the record. -/
def BlankAbove (input : String) (i : ℕ) : Prop :=
  ∃ n k line, lineNumber input i = some n ∧ (physicalLines input)[k]? = some line ∧ k + 1 < n ∧
    isRecord line = false

/-- Every error that is not one of the file as a whole is about a record and carries its line. -/
def PointAtLines {ε : Type} (input : String) (rowOf : ε → ℕ) (ofFile : List ε) (about : ℕ → List ε)
    (errors : List ε) : Prop :=
  ∀ e ∈ errors, e ∉ ofFile → ∃ i, e ∈ about i ∧ lineNumber input i = some (rowOf e)

variable {input : String} {i n : ℕ}

theorem csvLines_eq : csvLines input.toList = ((physicalLines input).filter isRecord).map trimEnd := by
  rw [csvLines, List.filter_map]
  rfl

theorem length_parseCsv_rows :
    (parseCsv input).rows.length + 1 = ((physicalLines input).filter isRecord).length ∨
      (parseCsv input).rows = [] := by
  have hlength : (((physicalLines input).filter isRecord).map trimEnd).length =
      ((physicalLines input).filter isRecord).length := List.length_map _
  rw [← hlength, ← csvLines_eq, parseCsv]
  cases csvLines input.toList with
  | nil => exact .inr rfl
  | cons line lines =>
    left
    simp only [List.length_map, List.length_cons]

theorem exists_lineNumber (hi : i < (parseCsv input).rows.length) :
    ∃ n, lineNumber input i = some n := by
  obtain hlength | hnil := @length_parseCsv_rows input
  · exact Places.exists_place (by omega)
  · rw [hnil] at hi
    cases hi

theorem lineNumber_eq_iff (h : lineNumber input i = some n) : n = i + 2 ↔ ¬ BlankAbove input i := by
  have hplace : n = i + 1 + 1 ↔ _ := Places.place_eq_iff h
  rw [hplace]
  constructor
  · rintro hall ⟨n', k, line, hn', hline, hlt, hblank⟩
    obtain rfl := Option.some.inj (h.symm.trans hn')
    cases hblank.symm.trans (hall k line hline hlt)
  · intro hnone k line hline hlt
    by_contra hblank
    exact hnone ⟨n, k, line, h, hline, hlt, Bool.eq_false_iff.mpr hblank⟩

/-- Errors numbered by the rows left point at lines exactly where no record with an error has an
empty line above it. -/
theorem pointAtLines_iff {ε : Type} {rowOf : ε → ℕ} {ofFile errors : List ε} {about : ℕ → List ε}
    (hcaused : ∀ e ∈ errors, e ∉ ofFile → ∃ i, e ∈ about i) (hfile : ∀ e ∈ ofFile, rowOf e = 1)
    (habout : ∀ i, ∀ e ∈ about i, i < (parseCsv input).rows.length ∧ rowOf e = i + 2) :
    PointAtLines input rowOf ofFile about errors ↔
      ∀ i, (∃ e ∈ errors, e ∈ about i) → ¬ BlankAbove input i := by
  constructor
  · rintro hpoint i ⟨e, he, hi⟩
    obtain ⟨-, hrow⟩ := habout i e hi
    have hnot : e ∉ ofFile := fun hmem => by
      have hone := hfile e hmem
      omega
    obtain ⟨j, hj, hline⟩ := hpoint e he hnot
    obtain ⟨-, hrow'⟩ := habout j e hj
    obtain rfl : j = i := by omega
    exact (lineNumber_eq_iff hline).mp hrow
  · intro hnone e he hnot
    obtain ⟨i, hi⟩ := hcaused e he hnot
    obtain ⟨hlt, hrow⟩ := habout i e hi
    obtain ⟨n, hn⟩ := exists_lineNumber hlt
    refine ⟨i, hi, ?_⟩
    rw [hn, (lineNumber_eq_iff hn).mpr (hnone i ⟨e, he, hi⟩), hrow]

end ImportLines

namespace Units

section Errors

variable (platform : Platform) (db : Db) (orgId buildingId : Id) (mode : UnitsImportMode)
  (parsed : ParsedCsv)

/-- The errors about the file as a whole. -/
def ParsedCsv.fileErrors : List ImportUnitsError :=
  if parsed.headers.isEmpty then [⟨1, none, "CSV is empty"⟩]
  else if ¬ (headerErrors platform parsed.headers).isEmpty then headerErrors platform parsed.headers
  else if 2000 < parsed.rows.length then [⟨1, none, "Too many rows (max 2000)"⟩]
  else []

/-- The errors about the record at the index. -/
def ParsedCsv.errorsAbout (i : ℕ) : List ImportUnitsError :=
  RowImport.aboutRow (verdict platform (activeUnitTypes db orgId) (parsed.used platform))
    (readCell (parsed.used platform) · "label") (takenLabels db buildingId mode) parsed.rows i

variable {platform db orgId buildingId mode parsed} {e : ImportUnitsError}

theorem row_of_mem_readHeaders {headers : List String} :
    ∀ e ∈ (readHeaders platform headers).2, e.row = 1 := by
  unfold readHeaders
  refine List.foldlRecOn _ _ (motive := fun acc : List (String × String) × List ImportUnitsError =>
    ∀ e ∈ acc.2, e.row = 1) (fun e he => by cases he) ?_
  rintro ⟨used, errors⟩ hacc ⟨header, index⟩ -
  have hone : ∀ field message, ∀ e ∈ errors ++ [(⟨1, field, message⟩ : ImportUnitsError)],
      e.row = 1 := by
    intro field message e he
    obtain he | he := List.mem_append.mp he
    · exact hacc e he
    · rw [List.mem_singleton.mp he]
  dsimp only
  by_cases hallowed : canonicalHeader platform header ∉ UNITS_IMPORT_ALLOWED_HEADERS
  · rw [if_pos hallowed]
    exact hone _ _
  · rw [if_neg hallowed]
    by_cases hdouble : (used.lookup (canonicalHeader platform header)).isSome = true
    · rw [if_pos hdouble]
      exact hone _ _
    · rw [if_neg hdouble]
      exact hacc

theorem row_of_mem_headerErrors {headers : List String} (h : e ∈ headerErrors platform headers) :
    e.row = 1 := by
  rw [headerErrors] at h
  dsimp only at h
  split_ifs at h
  · exact row_of_mem_readHeaders e h
  · obtain h | h := List.mem_append.mp h
    · exact row_of_mem_readHeaders e h
    · rw [List.mem_singleton.mp h]

theorem row_of_mem_fileErrors (h : e ∈ parsed.fileErrors platform) : e.row = 1 := by
  rw [ParsedCsv.fileErrors, ite_not] at h
  split_ifs at h
  · rw [List.mem_singleton.mp h]
  · rw [List.mem_singleton.mp h]
  · cases h
  · exact row_of_mem_headerErrors h

theorem exists_takenLabels {units : List (ℕ × CreateUnitDto)}
    (h : e ∈ takenLabels db buildingId mode units) :
    ∃ unit ∈ units, e ∈ takenLabels db buildingId mode [unit] := by
  cases mode with
  | UPSERT => cases h
  | CREATE =>
    obtain ⟨unit, hunit, rfl⟩ := List.mem_map.mp h
    obtain ⟨hmem, htaken⟩ := List.mem_filter.mp hunit
    exact ⟨unit, hmem, List.mem_map_of_mem (List.mem_filter.mpr ⟨List.mem_singleton_self _, htaken⟩)⟩

theorem row_of_mem_takenLabels {unit : ℕ × CreateUnitDto}
    (h : e ∈ takenLabels db buildingId mode [unit]) : e.row = unit.1 := by
  cases mode with
  | UPSERT => cases h
  | CREATE =>
    obtain ⟨found, hfound, rfl⟩ := List.mem_map.mp h
    rw [List.mem_singleton.mp (List.mem_filter.mp hfound).1]

theorem number_of_errorsAbout {i : ℕ}
    (h : e ∈ parsed.errorsAbout platform db orgId buildingId mode i) :
    i < parsed.rows.length ∧ e.row = i + 2 := by
  refine RowImport.number_of_aboutRow (f := (· + 2)) (fun a i seen e he => row_of_mem_errorsAfter he)
    (fun a i seen b hb e he => ?_) (by cases mode <;> rfl) h
  obtain ⟨label, -, rfl⟩ := keptAfter_eq_some_iff.mp hb
  exact row_of_mem_takenLabels he

theorem exists_errorsAbout (h : e ∈ (parsed.findings platform db orgId buildingId mode).2.2)
    (hfile : e ∉ parsed.fileErrors platform) :
    ∃ i, e ∈ parsed.errorsAbout platform db orgId buildingId mode i := by
  rw [ParsedCsv.findings, ite_not] at h
  rw [ParsedCsv.fileErrors, ite_not] at hfile
  split_ifs at h hfile
  · exact absurd h hfile
  · exact absurd h hfile
  · refine RowImport.exists_aboutRow (fun _ => verdict_key) (fun _ => exists_takenLabels) ?_
    rwa [← toScan_parseRows]
  · exact absurd h hfile

theorem errors_importCsv {env : Env} {user : Option AuthenticatedUser} {db' : Db}
    {queryMode : Option UnitsImportMode} {dryRun : Bool} {response : ImportUnitsResponse}
    (hscope : assertOrgScope user = .ok orgId)
    (h : importCsv env db user buildingId (some parsed) queryMode dryRun = .ok (db', response)) :
    response.errors =
      (parsed.findings env.platform db orgId buildingId (queryMode.getD .CREATE)).2.2 := by
  obtain ⟨building, hbuilding⟩ : ∃ building, findByIdForOrg db orgId buildingId = .ok building := by
    rw [importCsv, hscope] at h
    obtain ⟨_, horg, h⟩ := Outcome.bind_eq_ok.mp h
    obtain ⟨building, hbuilding, -⟩ := Outcome.bind_eq_ok.mp h
    rw [Except.ok.inj horg]
    exact ⟨building, hbuilding⟩
  rw [importCsv_eq hscope hbuilding] at h
  dsimp only at h
  split_ifs at h with hstop
  · cases h
    rfl
  · obtain ⟨result, -, h⟩ := Outcome.bind_eq_ok.mp h
    cases h
    exact (not_not.mp (not_or.mp hstop).2).symm

theorem unit_errors_point_at_lines_iff {env : Env} {user : Option AuthenticatedUser} {db' : Db}
    {queryMode : Option UnitsImportMode} {dryRun : Bool} {response : ImportUnitsResponse}
    {input : String} (hscope : assertOrgScope user = .ok orgId)
    (h : importCsv env db user buildingId (some (parseCsv input)) queryMode dryRun =
      .ok (db', response)) :
    ImportLines.PointAtLines input ImportUnitsError.row ((parseCsv input).fileErrors env.platform)
        ((parseCsv input).errorsAbout env.platform db orgId buildingId (queryMode.getD .CREATE))
        response.errors ↔
      ∀ i, (∃ e ∈ response.errors, e ∈ (parseCsv input).errorsAbout env.platform db orgId buildingId
        (queryMode.getD .CREATE) i) → ¬ ImportLines.BlankAbove input i := by
  rw [errors_importCsv hscope h]
  exact ImportLines.pointAtLines_iff (fun _ => exists_errorsAbout) (fun _ => row_of_mem_fileErrors)
    fun _ _ => number_of_errorsAbout

end Errors

end Units

namespace Parking.SlotImport

section Errors

variable (platform : Platform) (db : Db) (orgId buildingId : Id) (mode : ParkingSlotsImportMode)
  (parsed : ParsedCsv)

/-- The errors about the file as a whole. -/
def fileErrors : List ImportParkingSlotsError :=
  if parsed.headers.isEmpty then [⟨1, none, "CSV is empty"⟩]
  else if ¬ (headerErrors platform parsed.headers).isEmpty then headerErrors platform parsed.headers
  else if 5000 < parsed.rows.length then [⟨1, none, "Too many rows (max 5000)"⟩]
  else []

/-- The errors about the record at the index. -/
def errorsAbout (i : ℕ) : List ImportParkingSlotsError :=
  RowImport.aboutRow (verdict platform (used platform parsed)) (codeOf (used platform parsed))
    (takenCodes db orgId buildingId mode) parsed.rows i

variable {platform db orgId buildingId mode parsed} {e : ImportParkingSlotsError}

theorem row_of_mem_readHeaders {headers : List String} :
    ∀ e ∈ (readHeaders platform headers).2, e.row = 1 := by
  unfold readHeaders
  refine List.foldlRecOn _ _
    (motive := fun acc : List (String × String) × List ImportParkingSlotsError =>
      ∀ e ∈ acc.2, e.row = 1) (fun e he => by cases he) ?_
  rintro ⟨used, errors⟩ hacc ⟨header, index⟩ -
  have hone : ∀ field message, ∀ e ∈ errors ++ [(⟨1, field, message⟩ : ImportParkingSlotsError)],
      e.row = 1 := by
    intro field message e he
    obtain he | he := List.mem_append.mp he
    · exact hacc e he
    · rw [List.mem_singleton.mp he]
  dsimp only
  by_cases hallowed : Units.canonicalHeader platform header ∉ allowedHeaders
  · rw [if_pos hallowed]
    exact hone _ _
  · rw [if_neg hallowed]
    by_cases hdouble : (used.lookup (Units.canonicalHeader platform header)).isSome = true
    · rw [if_pos hdouble]
      exact hone _ _
    · rw [if_neg hdouble]
      exact hacc

theorem row_of_mem_requireHeader {used : List (String × String)} {header : String}
    (h : e ∈ requireHeader used header) : e.row = 1 := by
  rw [requireHeader] at h
  split_ifs at h
  · cases h
  · rw [List.mem_singleton.mp h]

theorem row_of_mem_fileErrors (h : e ∈ fileErrors platform parsed) : e.row = 1 := by
  rw [fileErrors, ite_not] at h
  split_ifs at h
  · rw [List.mem_singleton.mp h]
  · rw [List.mem_singleton.mp h]
  · cases h
  · rw [headerErrors, List.mem_append, List.mem_append] at h
    obtain (h | h) | h := h
    · exact row_of_mem_readHeaders e h
    · exact row_of_mem_requireHeader h
    · exact row_of_mem_requireHeader h

theorem row_of_mem_boolError {used row : List (String × String)} {n : ℕ} {canonical field : String}
    (h : e ∈ boolError platform used row n canonical field) : e.row = n := by
  rw [boolError] at h
  split at h
  · cases h
  · split_ifs at h
    · cases h
    · rw [List.mem_singleton.mp h]

theorem row_of_mem_rowErrors {used row : List (String × String)} {n : ℕ} {type : String}
    (h : e ∈ rowErrors platform used row n type) : e.row = n := by
  rw [rowErrors, List.mem_append, List.mem_append] at h
  obtain (h | h) | h := h
  · split_ifs at h
    · cases h
    · rw [List.mem_singleton.mp h]
  · exact row_of_mem_boolError h
  · exact row_of_mem_boolError h

theorem row_of_mem_errorsAfter {used row : List (String × String)} {i : ℕ} {seen : List String}
    (h : e ∈ (verdict platform used (row, i)).errorsAfter seen) : e.row = i + 2 := by
  rw [verdict] at h
  split_ifs at h with hblank
  · cases h
  · split at h
    · rw [List.mem_singleton.mp h]
    · rw [List.mem_singleton.mp h]
    · rw [RowImport.Verdict.errorsAfter] at h
      split_ifs at h
      · rw [List.mem_singleton.mp h]
      · exact row_of_mem_rowErrors h

theorem exists_takenCodes {slots : List (ℕ × CreateParkingSlotDto)}
    (h : e ∈ takenCodes db orgId buildingId mode slots) :
    ∃ slot ∈ slots, e ∈ takenCodes db orgId buildingId mode [slot] := by
  cases mode with
  | UPSERT => cases h
  | CREATE =>
    obtain ⟨slot, hslot, rfl⟩ := List.mem_map.mp h
    obtain ⟨hmem, htaken⟩ := List.mem_filter.mp hslot
    exact ⟨slot, hmem, List.mem_map_of_mem (List.mem_filter.mpr ⟨List.mem_singleton_self _, htaken⟩)⟩

theorem row_of_mem_takenCodes {slot : ℕ × CreateParkingSlotDto}
    (h : e ∈ takenCodes db orgId buildingId mode [slot]) : e.row = slot.1 := by
  cases mode with
  | UPSERT => cases h
  | CREATE =>
    obtain ⟨found, hfound, rfl⟩ := List.mem_map.mp h
    rw [List.mem_singleton.mp (List.mem_filter.mp hfound).1]

theorem number_of_errorsAbout {i : ℕ}
    (h : e ∈ errorsAbout platform db orgId buildingId mode parsed i) :
    i < parsed.rows.length ∧ e.row = i + 2 := by
  refine RowImport.number_of_aboutRow (f := (· + 2)) (fun a i seen e he => row_of_mem_errorsAfter he)
    (fun a i seen b hb e he => ?_) (by cases mode <;> rfl) h
  obtain ⟨code, type, -, rfl⟩ := keptAfter_eq_some_iff.mp hb
  exact row_of_mem_takenCodes he

theorem exists_errorsAbout (h : e ∈ (findings platform db orgId buildingId mode parsed).2.2)
    (hfile : e ∉ fileErrors platform parsed) :
    ∃ i, e ∈ errorsAbout platform db orgId buildingId mode parsed i := by
  rw [findings, ite_not] at h
  rw [fileErrors, ite_not] at hfile
  split_ifs at h hfile
  · exact absurd h hfile
  · exact absurd h hfile
  · refine RowImport.exists_aboutRow (fun _ => verdict_key) (fun _ => exists_takenCodes) ?_
    rwa [← toScan_parseRows]
  · exact absurd h hfile

theorem errors_importSlotsCsv {env : Env} {user : Option AuthenticatedUser} {db' : Db}
    {queryMode : Option ParkingSlotsImportMode} {dryRun : Bool}
    {response : ImportParkingSlotsResponse} (hscope : assertOrgScope user = .ok orgId)
    (h : importSlotsCsv env db user buildingId (some parsed) queryMode dryRun =
      .ok (db', response)) :
    response.errors =
      (findings env.platform db orgId buildingId (queryMode.getD .CREATE) parsed).2.2 := by
  obtain ⟨building, hbuilding⟩ : ∃ building, findBuilding db orgId buildingId = .ok building := by
    rw [importSlotsCsv, hscope] at h
    obtain ⟨_, horg, h⟩ := Outcome.bind_eq_ok.mp h
    obtain ⟨building, hbuilding, -⟩ := Outcome.bind_eq_ok.mp h
    rw [Except.ok.inj horg]
    exact ⟨building, hbuilding⟩
  rw [importSlotsCsv_eq hscope hbuilding] at h
  dsimp only at h
  split_ifs at h with hstop
  · cases h
    rfl
  · obtain ⟨result, -, h⟩ := Outcome.bind_eq_ok.mp h
    cases h
    exact (not_not.mp (not_or.mp hstop).2).symm

theorem slot_errors_point_at_lines_iff {env : Env} {user : Option AuthenticatedUser} {db' : Db}
    {queryMode : Option ParkingSlotsImportMode} {dryRun : Bool}
    {response : ImportParkingSlotsResponse} {input : String}
    (hscope : assertOrgScope user = .ok orgId)
    (h : importSlotsCsv env db user buildingId (some (parseCsv input)) queryMode dryRun =
      .ok (db', response)) :
    ImportLines.PointAtLines input ImportParkingSlotsError.row (fileErrors env.platform (parseCsv input))
        (errorsAbout env.platform db orgId buildingId (queryMode.getD .CREATE) (parseCsv input))
        response.errors ↔
      ∀ i, (∃ e ∈ response.errors, e ∈ errorsAbout env.platform db orgId buildingId
        (queryMode.getD .CREATE) (parseCsv input) i) → ¬ ImportLines.BlankAbove input i := by
  rw [errors_importSlotsCsv hscope h]
  exact ImportLines.pointAtLines_iff (fun _ => exists_errorsAbout) (fun _ => row_of_mem_fileErrors)
    fun _ _ => number_of_errorsAbout

end Errors

end Parking.SlotImport

namespace ImportLines

open Towerdesk.Parking (SlotImport.errorsAbout SlotImport.fileErrors)

/-- Of units and of slots: the errors of the rows carry the lines of their records exactly where
no record with an error has an empty line above it. -/
theorem import_errors_point_at_lines_iff (unitEnv : Units.Env) (unitDb : Units.Db)
    (slotEnv : Parking.SlotImport.Env) (slotDb : Parking.SlotImport.Db)
    {user : Option AuthenticatedUser} {orgId : Id} (hscope : assertOrgScope user = .ok orgId)
    (buildingId : Id) (input : String) (dryRun : Bool) :
    (∀ (queryMode : Option Units.UnitsImportMode) (db' : Units.Db)
        (response : Units.ImportUnitsResponse),
      Units.importCsv unitEnv unitDb user buildingId (some (parseCsv input)) queryMode dryRun =
        .ok (db', response) →
      (PointAtLines input Units.ImportUnitsError.row ((parseCsv input).fileErrors unitEnv.platform)
          ((parseCsv input).errorsAbout unitEnv.platform unitDb orgId buildingId
            (queryMode.getD .CREATE)) response.errors ↔
        ∀ i, (∃ e ∈ response.errors, e ∈ (parseCsv input).errorsAbout unitEnv.platform unitDb orgId
          buildingId (queryMode.getD .CREATE) i) → ¬ BlankAbove input i)) ∧
    ∀ (queryMode : Option Parking.SlotImport.ParkingSlotsImportMode)
        (db' : Parking.SlotImport.Db) (response : Parking.SlotImport.ImportParkingSlotsResponse),
      Parking.SlotImport.importSlotsCsv slotEnv slotDb user buildingId (some (parseCsv input))
        queryMode dryRun = .ok (db', response) →
      (PointAtLines input Parking.SlotImport.ImportParkingSlotsError.row
          (SlotImport.fileErrors slotEnv.platform (parseCsv input))
          (SlotImport.errorsAbout slotEnv.platform slotDb orgId buildingId
            (queryMode.getD .CREATE) (parseCsv input)) response.errors ↔
        ∀ i, (∃ e ∈ response.errors, e ∈ SlotImport.errorsAbout slotEnv.platform slotDb orgId
          buildingId (queryMode.getD .CREATE) (parseCsv input) i) → ¬ BlankAbove input i) :=
  ⟨fun _ _ _ => Units.unit_errors_point_at_lines_iff hscope,
    fun _ _ _ => Parking.SlotImport.slot_errors_point_at_lines_iff hscope⟩

section Gap

def manager : Option AuthenticatedUser := some ⟨"manager", some "org"⟩

/-- An empty line under the header, and a label twice below it. -/
def gapped : String := "label\n\nA-101\nA-101"

theorem gapped_line : lineNumber gapped 0 = some 3 ∧ lineNumber gapped 1 = some 4 := by
  decide +kernel

/-- The same file without the empty line. -/
def dense : String := "label\nA-101\nA-101"

theorem dense_not_blankAbove (i : ℕ) : ¬ BlankAbove dense i := by
  rintro ⟨n, k, line, -, hline, -, hblank⟩
  have hall : ∀ line ∈ physicalLines dense, isRecord line = true := by decide +kernel
  cases hblank.symm.trans (hall line (List.mem_of_getElem? hline))

theorem dense_points_at_lines : ∃ run : Units.Db × Units.ImportUnitsResponse,
    Units.importCsv Parking.SlotImport.towerEnv Units.furnishedTower manager "tower"
      (some (parseCsv dense)) none true = .ok run ∧
    run.2.errors = [⟨3, some "label", "Duplicate label in CSV: A-101"⟩] ∧
    PointAtLines dense Units.ImportUnitsError.row ((parseCsv dense).fileErrors Units.asciiPlatform)
      ((parseCsv dense).errorsAbout Units.asciiPlatform Units.furnishedTower "org" "tower" .CREATE)
      run.2.errors := by
  have herrors : (Units.importCsv Parking.SlotImport.towerEnv Units.furnishedTower manager "tower"
      (some (parseCsv dense)) none true).toOption.map (·.2.errors) =
        some [⟨3, some "label", "Duplicate label in CSV: A-101"⟩] := by decide +kernel
  cases hrun : Units.importCsv Parking.SlotImport.towerEnv Units.furnishedTower manager "tower"
      (some (parseCsv dense)) none true with
  | error e =>
    rw [hrun] at herrors
    cases herrors
  | ok run =>
    rw [hrun] at herrors
    have hscope : assertOrgScope manager = .ok "org" := rfl
    exact ⟨run, rfl, Option.some.inj herrors, ((import_errors_point_at_lines_iff
      Parking.SlotImport.towerEnv Units.furnishedTower Parking.SlotImport.garageEnv
      Parking.SlotImport.emptyGarage hscope "tower" dense true).1 none run.1 run.2 hrun).mpr fun i _ => dense_not_blankAbove i⟩

/-- The row that the error of the second record carries is the line of the first. -/
theorem gapped_points_at_other_line : ¬ ∀ (env : Units.Env) (db db' : Units.Db)
    (user : Option AuthenticatedUser) (orgId buildingId : Id) (input : String)
    (queryMode : Option Units.UnitsImportMode) (dryRun : Bool)
    (response : Units.ImportUnitsResponse), assertOrgScope user = .ok orgId →
      Units.importCsv env db user buildingId (some (parseCsv input)) queryMode dryRun =
        .ok (db', response) →
      PointAtLines input Units.ImportUnitsError.row ((parseCsv input).fileErrors env.platform)
        ((parseCsv input).errorsAbout env.platform db orgId buildingId (queryMode.getD .CREATE))
        response.errors := by
  intro h
  have herrors : (Units.importCsv Parking.SlotImport.towerEnv Units.furnishedTower manager "tower"
      (some (parseCsv gapped)) none true).toOption.map (·.2.errors) =
        some [⟨3, some "label", "Duplicate label in CSV: A-101"⟩] := by decide +kernel
  cases hrun : Units.importCsv Parking.SlotImport.towerEnv Units.furnishedTower manager "tower"
      (some (parseCsv gapped)) none true with
  | error e =>
    rw [hrun] at herrors
    cases herrors
  | ok run =>
    rw [hrun] at herrors
    have hpoint := h _ _ run.1 _ _ _ _ _ _ run.2 rfl hrun
    have herror : run.2.errors = [⟨3, some "label", "Duplicate label in CSV: A-101"⟩] :=
      Option.some.inj herrors
    rw [herror] at hpoint
    obtain ⟨i, hi, hline⟩ := hpoint _ List.mem_cons_self (by decide +kernel)
    have hrow := (Units.number_of_errorsAbout hi).2
    obtain rfl : i = 1 := by
      change 3 = i + 2 at hrow
      omega
    rw [gapped_line.2] at hline
    exact absurd hline (by decide)

end Gap

end ImportLines

end Towerdesk
