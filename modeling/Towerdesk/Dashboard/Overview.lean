import Towerdesk.Lib.Tally
import Towerdesk.Dashboard.Activity
import Mathlib.Algebra.Order.Floor.Ring

/-!
# The overview

Counts of an organisation and its trends of the last thirty days. The window of a trend begins
with a day of the server's zone, while its days are named in UTC: the database names the day
of each row, the service the day of each of thirty starts of a local day, and the two are joined
by name. What a trend adds up to depends on where the local days begin.
-/

namespace Towerdesk.Dashboard

open IsoDate (civilOfDays dayText monthDay msPerDay)
open LocalTime (Zone utcDay)
open Maintenance (MaintenanceRequestStatus)

/-- The clock of a server, before the year 9999, and the database's order of names. -/
structure OverviewEnv extends Env where
  nameLe : String → String → Bool
  clock : 0 ≤ now ∧ now < 253370764800000

structure DailyCountRow where
  date : String
  count : ℤ
deriving DecidableEq

structure BroadcastDailyCountRow where
  date : String
  sent : ℤ
  recipientCount : ℤ
deriving DecidableEq

structure DashboardMaintenanceTrendPointDto where
  date : String
  created : ℤ
  completed : ℤ
deriving DecidableEq

structure DashboardVisitorTrendPointDto where
  date : String
  created : ℤ
deriving DecidableEq

structure DashboardBroadcastTrendPointDto where
  date : String
  sent : ℤ
  recipientCount : ℤ
deriving DecidableEq

structure DashboardTrendsDto where
  maintenance : List DashboardMaintenanceTrendPointDto
  visitors : List DashboardVisitorTrendPointDto
  broadcasts : List DashboardBroadcastTrendPointDto
deriving DecidableEq

structure DashboardSummaryDto where
  buildingsTotal : ℤ
  unitsTotal : ℤ
  occupiedUnits : ℤ
  vacantUnits : ℤ
  occupancyRate : ℚ
  activeLeases : ℤ
  openMaintenanceRequests : ℤ
  overdueMaintenanceRequests : ℤ
  visitorsToday : ℤ
  activeParkingAllocations : ℤ
  broadcastsLast30Days : ℤ
  unreadNotifications : ℤ
deriving DecidableEq

structure DashboardBuildingMetricDto where
  buildingId : Id
  buildingName : String
  totalUnits : ℤ
  occupiedUnits : ℤ
  vacantUnits : ℤ
  occupancyRate : ℚ
  activeLeases : ℤ
  openMaintenanceRequests : ℤ
  activeParkingAllocations : ℤ
  parkingSlotsTotal : ℤ
deriving DecidableEq

structure DashboardOverviewResponseDto where
  generatedAt : Date
  summary : DashboardSummaryDto
  trends : DashboardTrendsDto
  buildings : List DashboardBuildingMetricDto
deriving DecidableEq

section Days

/-- `date.toISOString()`, which throws only far outside the years of a clock. -/
def toISOString (date : Date) : String :=
  (IsoDate.timeValue date).elim "" fun t => .ofList (IsoDate.toISOString t)

def toDateKey (date : Date) : String := .ofList ((toISOString date).toList.take 10)

def toDateSeries (zone : Zone) (start : Date) (days : ℕ) : List String :=
  (List.range days).map fun (index : ℕ) => toDateKey (zone.addDays start index)

/-- `YYYY`: years before the first are counted backwards, and those after 9999 in full. -/
def yearDigits (year : ℤ) : List Char :=
  let y := (if 0 < year then year else 1 - year).toNat
  if y ≤ 9999 then [IsoDate.place y 3, IsoDate.place y 2, IsoDate.place y 1, IsoDate.place y 0]
  else Nat.toDigits 10 y

/-- `TO_CHAR(DATE_TRUNC('day', date), 'YYYY-MM-DD')`. -/
def truncToDay (date : Date) : String :=
  .ofList (yearDigits (civilOfDays (utcDay date)).year ++ monthDay (civilOfDays (utcDay date)))

end Days

section Queries

variable (db : Db) (orgId : Id) (start : Date)

def dailyCounts (instants : List Date) : List DailyCountRow :=
  (Tally.groupBy truncToDay (instants.filter (start ≤ ·))).map fun day => ⟨day.1, day.2.length⟩

def ownRequests : List MaintenanceRequest := db.maintenanceRequests.rows.filter (·.orgId = orgId)

def ownVisitors : List Visitor := db.visitors.rows.filter (·.orgId = orgId)

def ownBroadcasts : List Broadcast := db.broadcasts.rows.filter (·.orgId = orgId)

def ownBuildings : List Building := db.buildings.rows.filter (·.orgId = orgId)

def listMaintenanceTrendCounts (field : MaintenanceRequest → Option Date) : List DailyCountRow :=
  dailyCounts start ((ownRequests db orgId).filterMap field)

def listVisitorTrendCounts : List DailyCountRow :=
  dailyCounts start ((ownVisitors db orgId).map (·.createdAt))

def listBroadcastTrendCounts : List BroadcastDailyCountRow :=
  (Tally.groupBy (fun b => truncToDay b.createdAt)
      ((ownBroadcasts db orgId).filter (start ≤ ·.createdAt))).map
    fun day => ⟨day.1, day.2.length, Tally.total (·.recipientCount) day.2⟩

end Queries

section Trends

variable (zone : Zone) (start : Date)

def toDailyCountMap (rows : List DailyCountRow) : String → Option ℤ :=
  Tally.toMap (rows.map fun row => (row.date, row.count))

def toMaintenanceTrend (created completed : String → Option ℤ) :
    List DashboardMaintenanceTrendPointDto :=
  (toDateSeries zone start DASHBOARD_TREND_DAYS).map fun date =>
    ⟨date, (created date).getD 0, (completed date).getD 0⟩

def toVisitorTrend (created : String → Option ℤ) : List DashboardVisitorTrendPointDto :=
  (toDateSeries zone start DASHBOARD_TREND_DAYS).map fun date => ⟨date, (created date).getD 0⟩

def toBroadcastTrend (sent recipientCount : String → Option ℤ) :
    List DashboardBroadcastTrendPointDto :=
  (toDateSeries zone start DASHBOARD_TREND_DAYS).map fun date =>
    ⟨date, (sent date).getD 0, (recipientCount date).getD 0⟩

def buildTrends (maintenanceCreatedRows maintenanceCompletedRows visitorRows : List DailyCountRow)
    (broadcastRows : List BroadcastDailyCountRow) : DashboardTrendsDto where
  maintenance := toMaintenanceTrend zone start (toDailyCountMap maintenanceCreatedRows)
    (toDailyCountMap maintenanceCompletedRows)
  visitors := toVisitorTrend zone start (toDailyCountMap visitorRows)
  broadcasts := toBroadcastTrend zone start
    (toDailyCountMap (broadcastRows.map fun row => ⟨row.date, row.sent⟩))
    (toDailyCountMap (broadcastRows.map fun row => ⟨row.date, row.recipientCount⟩))

def emptyTrends : DashboardTrendsDto where
  maintenance := toMaintenanceTrend zone start (fun _ => none) fun _ => none
  visitors := toVisitorTrend zone start fun _ => none
  broadcasts := toBroadcastTrend zone start (fun _ => none) fun _ => none

end Trends

section Counts

/-- The rows of each building counted. -/
def countRows {α : Type} (buildingId : α → Id) (rows : List α) : List (Id × ℤ) :=
  Tally.sums buildingId (fun _ => 1) rows

def countByBuilding (rows : List (Id × ℤ)) : Id → Option ℤ := Tally.toMap rows

def sumCounts (rows : List (Id × ℤ)) : ℤ := (rows.map Prod.snd).sum

def sumDailyCounts (values : List ℤ) : ℤ := values.sum

/-- `Math.round` rounds a half up. -/
def percentage (numerator denominator : ℤ) : ℚ :=
  if denominator ≤ 0 then 0 else (⌊(numerator / denominator : ℚ) * 10000 + 1 / 2⌋ : ℚ) / 100

def zeroSummary : DashboardSummaryDto := ⟨0, 0, 0, 0, 0, 0, 0, 0, 0, 0, 0, 0⟩

end Counts

section Service

variable (env : OverviewEnv) (db : Db)

def todayStart : Date := env.zone.startOfDay env.now

def trendStart : Date := env.zone.addDays (todayStart env) (-(DASHBOARD_TREND_DAYS - 1))

def openStatuses : List MaintenanceRequestStatus := [.OPEN, .ASSIGNED, .IN_PROGRESS]

def overviewOf (orgId userId : Id) : DashboardOverviewResponseDto :=
  let overdueBefore := env.now - DASHBOARD_MAINTENANCE_OVERDUE_HOURS * 60 * 60 * 1000
  let buildings := (ownBuildings db orgId).insertionSort fun a b => env.nameLe a.name b.name
  let buildingIds := buildings.map (·.id)
  if buildingIds.length = 0 then
    ⟨env.now, zeroSummary, emptyTrends env.zone (trendStart env), []⟩
  else
    let unitRows := countRows (·.buildingId) (db.units.rows.filter (·.buildingId ∈ buildingIds))
    let occupancyRows := countRows (·.buildingId)
      (db.occupancies.rows.filter fun o => o.buildingId ∈ buildingIds ∧ o.status = .ACTIVE)
    let leaseRows := countRows (·.buildingId)
      (db.leases.rows.filter fun l =>
        l.orgId = orgId ∧ l.buildingId ∈ buildingIds ∧ l.status = .ACTIVE)
    let openRequestRows := countRows (·.buildingId)
      (db.maintenanceRequests.rows.filter fun r =>
        r.orgId = orgId ∧ r.buildingId ∈ buildingIds ∧ r.status ∈ openStatuses)
    let parkingSlotRows := countRows (·.buildingId)
      (db.parkingSlots.rows.filter fun s => s.orgId = orgId ∧ s.buildingId ∈ buildingIds)
    let activeParkingRows := countRows (·.buildingId)
      (db.parkingAllocations.rows.filter fun a =>
        a.orgId = orgId ∧ a.buildingId ∈ buildingIds ∧ a.endDate.all (env.now ≤ ·))
    let visitorCountToday := db.visitors.rows.countP fun v =>
      v.orgId = orgId ∧ todayStart env ≤ v.createdAt
    let maintenanceCreatedTrendRows :=
      listMaintenanceTrendCounts db orgId (trendStart env) (some ·.createdAt)
    let maintenanceCompletedTrendRows :=
      listMaintenanceTrendCounts db orgId (trendStart env) (·.completedAt)
    let visitorTrendRows := listVisitorTrendCounts db orgId (trendStart env)
    let broadcastTrendRows := listBroadcastTrendCounts db orgId (trendStart env)
    let overdueMaintenanceRequests := db.maintenanceRequests.rows.countP fun r =>
      r.orgId = orgId ∧ r.buildingId ∈ buildingIds ∧ r.status ∈ openStatuses ∧
        r.createdAt ≤ overdueBefore
    let unreadNotifications := db.notifications.rows.countP fun n =>
      n.orgId = orgId ∧ n.recipientUserId = userId ∧ n.readAt = none
    let unitsTotal := sumCounts unitRows
    let occupiedUnits := sumCounts occupancyRows
    { generatedAt := env.now
      summary :=
        { buildingsTotal := buildings.length
          unitsTotal := unitsTotal
          occupiedUnits := occupiedUnits
          vacantUnits := max (unitsTotal - occupiedUnits) 0
          occupancyRate := percentage occupiedUnits unitsTotal
          activeLeases := sumCounts leaseRows
          openMaintenanceRequests := sumCounts openRequestRows
          overdueMaintenanceRequests := overdueMaintenanceRequests
          visitorsToday := visitorCountToday
          activeParkingAllocations := sumCounts activeParkingRows
          broadcastsLast30Days := sumDailyCounts (broadcastTrendRows.map (·.sent))
          unreadNotifications := unreadNotifications }
      trends := buildTrends env.zone (trendStart env) maintenanceCreatedTrendRows
        maintenanceCompletedTrendRows visitorTrendRows broadcastTrendRows
      buildings := buildings.map fun building =>
        let totalUnits := (countByBuilding unitRows building.id).getD 0
        let occupiedUnits := (countByBuilding occupancyRows building.id).getD 0
        { buildingId := building.id
          buildingName := building.name
          totalUnits := totalUnits
          occupiedUnits := occupiedUnits
          vacantUnits := max (totalUnits - occupiedUnits) 0
          occupancyRate := percentage occupiedUnits totalUnits
          activeLeases := (countByBuilding leaseRows building.id).getD 0
          openMaintenanceRequests := (countByBuilding openRequestRows building.id).getD 0
          activeParkingAllocations := (countByBuilding activeParkingRows building.id).getD 0
          parkingSlotsTotal := (countByBuilding parkingSlotRows building.id).getD 0 } }

def getOverview (user : Option AuthenticatedUser) : Result DashboardOverviewResponseDto := do
  let orgId ← assertOrgScope user
  let userId ← assertUserId user
  pure (overviewOf env db orgId userId)

end Service

section DateKeys

/-- The days that a text of four digits for the year has, with a margin. -/
def FourDigits (day : ℤ) : Prop := -719102 ≤ day ∧ day ≤ 2932590

theorem FourDigits.year {day : ℤ} (h : FourDigits day) :
    0 < (civilOfDays day).year ∧ (civilOfDays day).year ≤ 9999 :=
  ⟨IsoDate.civilOfDays_year_pos h.1, IsoDate.civilOfDays_year_le h.2⟩

theorem toDateKey_eq {date : Date} (h : FourDigits (utcDay date)) :
    toDateKey date = .ofList (dayText (utcDay date)) := by
  have hrange : -IsoDate.maxTime ≤ date ∧ date ≤ IsoDate.maxTime := by
    simp only [FourDigits, utcDay, msPerDay] at h
    simp only [IsoDate.maxTime, Date]
    omega
  have hvalue : IsoDate.timeValue date = some ⟨date, hrange⟩ := dif_pos hrange
  have hyear := h.year
  rw [toDateKey, toISOString, hvalue, Option.elim_some, String.toList_ofList]
  exact congrArg String.ofList (IsoDate.take_toISOString ⟨date, hrange⟩ ⟨hyear.1.le, hyear.2⟩)

theorem yearDigits_eq {year : ℤ} (h : 0 < year ∧ year ≤ 9999) :
    yearDigits year = IsoDate.yearText year := by
  have hnat : year.toNat = year.natAbs := by omega
  have hle : year.natAbs ≤ 9999 := by omega
  rw [IsoDate.yearText_four ⟨h.1.le, h.2⟩]
  simp only [yearDigits, h.1, if_true, hnat, hle]

theorem lt_length_yearDigits {year : ℤ} (h : 9999 < year) : 4 < (yearDigits year).length := by
  have hpos : 0 < year := by omega
  have hlarge : ¬ year.toNat ≤ 9999 := by omega
  simp only [yearDigits, hpos, if_true, hlarge, if_false]
  by_contra hshort
  have hlt := (Nat.length_toDigits_le_iff (b := 10) (by decide) (by decide)).mp (not_lt.mp hshort)
  omega

/-- The database names the day of a row as the service names the same day, and no other. -/
theorem toDateKey_eq_truncToDay_iff {date row : Date} (hdate : FourDigits (utcDay date))
    (hrow : -719102 ≤ utcDay row) :
    toDateKey date = truncToDay row ↔ utcDay date = utcDay row := by
  rw [toDateKey_eq hdate, truncToDay, String.ofList_inj]
  have hyear := hdate.year
  have hpos := IsoDate.civilOfDays_year_pos hrow
  by_cases hlarge : (civilOfDays (utcDay row)).year ≤ 9999
  · rw [yearDigits_eq ⟨hpos, hlarge⟩]
    constructor
    · intro h
      exact IsoDate.dayText_inj h (by omega) (by omega)
    · intro h
      rw [h, dayText]
  · refine iff_of_false (fun h => ?_) fun h => hlarge (h ▸ hyear.2)
    have hlength := congrArg List.length h
    have hlong := lt_length_yearDigits (not_le.mp hlarge)
    rw [IsoDate.length_dayText ⟨hyear.1.le, hyear.2⟩, List.length_append] at hlength
    have hmonthDay : (monthDay (civilOfDays (utcDay row))).length = 6 := rfl
    omega

end DateKeys

section Series

variable {env : OverviewEnv} {start : Date}

/-- The days of UTC on which the thirty days of a trend begin. -/
def seriesDays (env : OverviewEnv) : List ℤ :=
  (List.range DASHBOARD_TREND_DAYS).map fun (index : ℕ) =>
    utcDay (env.zone.addDays (trendStart env) index)

theorem trendStart_bounds :
    env.now - 34 * msPerDay ≤ trendStart env ∧ trendStart env ≤ env.now - 25 * msPerDay := by
  have htoday := env.zone.startOfDay_bounds env.now
  have hlow := env.zone.lt_addDays (todayStart env) (-(DASHBOARD_TREND_DAYS - 1))
  have hhigh := env.zone.addDays_lt (todayStart env) (-(DASHBOARD_TREND_DAYS - 1))
  have hfrom : (-((DASHBOARD_TREND_DAYS : ℤ) - 1) - 2) = -31 := by decide
  have hto : (-((DASHBOARD_TREND_DAYS : ℤ) - 1) + 2) = -27 := by decide
  rw [hfrom] at hlow
  rw [hto] at hhigh
  simp only [todayStart] at hlow hhigh
  simp only [trendStart, todayStart, Date]
  omega

theorem fourDigits_seriesDay {index : ℕ} (h : index < DASHBOARD_TREND_DAYS) :
    FourDigits (utcDay (env.zone.addDays (trendStart env) index)) := by
  have hstart := @trendStart_bounds env
  have hclock := env.clock
  have hlow := env.zone.lt_addDays (trendStart env) index
  have hhigh := env.zone.addDays_lt (trendStart env) index
  have hindex : (index : ℤ) ≤ 29 := by
    simp only [DASHBOARD_TREND_DAYS] at h
    omega
  simp only [FourDigits, utcDay, msPerDay, Date] at *
  omega

theorem count_toDateSeries {t : Date} (ht : trendStart env ≤ t) :
    (toDateSeries env.zone (trendStart env) DASHBOARD_TREND_DAYS).count (truncToDay t) =
      (seriesDays env).count (utcDay t) := by
  have hrow : -719102 ≤ utcDay t := by
    have hstart := @trendStart_bounds env
    have hclock := env.clock
    simp only [utcDay, msPerDay, Date] at *
    omega
  rw [toDateSeries, seriesDays, List.count_eq_countP, List.count_eq_countP, List.countP_map,
    List.countP_map]
  refine List.countP_congr fun index hindex => ?_
  simp only [Function.comp_apply, beq_iff_eq]
  have hdate := @fourDigits_seriesDay env index (List.mem_range.mp hindex)
  exact toDateKey_eq_truncToDay_iff hdate hrow

/-- A series adds up the rows of the window, each as often as its day is in the series. -/
theorem sum_series {α : Type} (time : α → Date) (weight : α → ℤ) (rows : List α) :
    ((toDateSeries env.zone (trendStart env) DASHBOARD_TREND_DAYS).map fun date =>
        (Tally.toMap (Tally.sums (fun a => truncToDay (time a)) weight
          (rows.filter fun a => trendStart env ≤ time a)) date).getD 0).sum =
      Tally.total (fun a => (seriesDays env).count (utcDay (time a)) * weight a)
        (rows.filter fun a => trendStart env ≤ time a) := by
  rw [Tally.sum_toMap_sums]
  refine Tally.total_congr fun a ha => ?_
  rw [count_toDateSeries (by simpa using (List.mem_filter.mp ha).2)]

theorem toDailyCountMap_dailyCounts (instants : List Date) :
    toDailyCountMap (dailyCounts start instants) =
      Tally.toMap (Tally.sums truncToDay (fun _ => 1) (instants.filter (start ≤ ·))) := by
  rw [toDailyCountMap, dailyCounts, List.map_map, Tally.sums]
  simp only [Tally.total_one]
  rfl

theorem toDailyCountMap_sent {db : Db} {orgId : Id} :
    toDailyCountMap ((listBroadcastTrendCounts db orgId start).map fun row => ⟨row.date, row.sent⟩) =
      Tally.toMap (Tally.sums (fun b => truncToDay b.createdAt) (fun _ => 1)
        ((ownBroadcasts db orgId).filter (start ≤ ·.createdAt))) := by
  rw [toDailyCountMap, listBroadcastTrendCounts, List.map_map, List.map_map, Tally.sums]
  simp only [Tally.total_one]
  rfl

theorem toDailyCountMap_recipientCount {db : Db} {orgId : Id} :
    toDailyCountMap
        ((listBroadcastTrendCounts db orgId start).map fun row => ⟨row.date, row.recipientCount⟩) =
      Tally.toMap (Tally.sums (fun b => truncToDay b.createdAt) (·.recipientCount)
        ((ownBroadcasts db orgId).filter (start ≤ ·.createdAt))) := by
  rw [toDailyCountMap, listBroadcastTrendCounts, List.map_map, List.map_map]
  rfl

end Series

section Sums

variable {env : OverviewEnv} {db : Db} {orgId userId : Id}

/-- How often the trends of an organisation list an instant of the window. -/
def listings (env : OverviewEnv) (db : Db) (orgId : Id) (t : Date) : ℕ :=
  if ownBuildings db orgId = [] then 0 else (seriesDays env).count (utcDay t)

/-- What a trend of the instants adds up to. -/
def listed (env : OverviewEnv) (db : Db) (orgId : Id) (instants : List Date) : ℤ :=
  Tally.total (fun t => listings env db orgId t) (instants.filter (trendStart env ≤ ·))

theorem length_buildingIds_eq_zero_iff {le : Building → Building → Bool} :
    (((ownBuildings db orgId).insertionSort fun a b => le a b).map (·.id)).length = 0 ↔
      ownBuildings db orgId = [] := by
  rw [List.length_map, List.length_insertionSort, List.length_eq_zero_iff]

theorem overviewOf_trends :
    (overviewOf env db orgId userId).trends =
      if ownBuildings db orgId = [] then emptyTrends env.zone (trendStart env)
      else buildTrends env.zone (trendStart env)
        (listMaintenanceTrendCounts db orgId (trendStart env) (some ·.createdAt))
        (listMaintenanceTrendCounts db orgId (trendStart env) (·.completedAt))
        (listVisitorTrendCounts db orgId (trendStart env))
        (listBroadcastTrendCounts db orgId (trendStart env)) := by
  unfold overviewOf
  simp only [length_buildingIds_eq_zero_iff]
  split_ifs <;> rfl

theorem overviewOf_last30Days :
    (overviewOf env db orgId userId).summary.broadcastsLast30Days =
      if ownBuildings db orgId = [] then 0
      else (((ownBroadcasts db orgId).filter (trendStart env ≤ ·.createdAt)).length : ℤ) := by
  have hsent : (listBroadcastTrendCounts db orgId (trendStart env)).map (·.sent) =
      (Tally.sums (fun b => truncToDay b.createdAt) (fun _ => 1)
        ((ownBroadcasts db orgId).filter (trendStart env ≤ ·.createdAt))).map Prod.snd := by
    rw [listBroadcastTrendCounts, List.map_map, Tally.sums, List.map_map]
    simp only [Function.comp_def, Tally.total_one]
  unfold overviewOf
  simp only [length_buildingIds_eq_zero_iff]
  split_ifs
  · rfl
  · simp only [sumDailyCounts, hsent, Tally.sum_sums, Tally.total_one]

section Instants

variable {instants : List Date}

theorem listed_of_empty (h : ownBuildings db orgId = []) : listed env db orgId instants = 0 := by
  simp [listed, listings, h, Tally.total]

theorem sum_instants (h : ownBuildings db orgId ≠ []) :
    ((toDateSeries env.zone (trendStart env) DASHBOARD_TREND_DAYS).map fun date =>
        (toDailyCountMap (dailyCounts (trendStart env) instants) date).getD 0).sum =
      listed env db orgId instants := by
  rw [toDailyCountMap_dailyCounts, sum_series fun t => t, listed]
  refine Tally.total_congr fun t _ => ?_
  rw [listings, if_neg h, mul_one]

end Instants

theorem sum_created :
    ((overviewOf env db orgId userId).trends.maintenance.map (·.created)).sum =
      listed env db orgId ((ownRequests db orgId).map (·.createdAt)) := by
  rw [overviewOf_trends]
  split_ifs with h
  · simp [emptyTrends, toMaintenanceTrend, listed_of_empty h, Function.comp_def]
  · have hcolumn : (ownRequests db orgId).filterMap (some ·.createdAt) =
        (ownRequests db orgId).map (·.createdAt) := congrFun List.filterMap_eq_map _
    simp only [buildTrends, toMaintenanceTrend, List.map_map]
    rw [listMaintenanceTrendCounts, hcolumn]
    exact sum_instants h

theorem sum_completed :
    ((overviewOf env db orgId userId).trends.maintenance.map (·.completed)).sum =
      listed env db orgId ((ownRequests db orgId).filterMap (·.completedAt)) := by
  rw [overviewOf_trends]
  split_ifs with h
  · simp [emptyTrends, toMaintenanceTrend, listed_of_empty h, Function.comp_def]
  · simp only [buildTrends, toMaintenanceTrend, List.map_map]
    exact sum_instants h

theorem sum_visitors :
    ((overviewOf env db orgId userId).trends.visitors.map (·.created)).sum =
      listed env db orgId ((ownVisitors db orgId).map (·.createdAt)) := by
  rw [overviewOf_trends]
  split_ifs with h
  · simp [emptyTrends, toVisitorTrend, listed_of_empty h, Function.comp_def]
  · simp only [buildTrends, toVisitorTrend, List.map_map]
    exact sum_instants h

theorem sum_sent :
    ((overviewOf env db orgId userId).trends.broadcasts.map (·.sent)).sum =
      listed env db orgId ((ownBroadcasts db orgId).map (·.createdAt)) := by
  rw [overviewOf_trends]
  split_ifs with h
  · simp [emptyTrends, toBroadcastTrend, listed_of_empty h, Function.comp_def]
  · simp only [buildTrends, toBroadcastTrend, List.map_map, Function.comp_def]
    rw [toDailyCountMap_sent, sum_series, listed, List.filter_map, Tally.total, Tally.total,
      List.map_map]
    simp only [Function.comp_def, listings, if_neg h, mul_one]

theorem sum_recipients :
    ((overviewOf env db orgId userId).trends.broadcasts.map (·.recipientCount)).sum =
      Tally.total (fun b => listings env db orgId b.createdAt * b.recipientCount)
        ((ownBroadcasts db orgId).filter (trendStart env ≤ ·.createdAt)) := by
  rw [overviewOf_trends]
  split_ifs with h
  · simp [emptyTrends, toBroadcastTrend, listings, h, Tally.total, Function.comp_def]
  · simp only [buildTrends, toBroadcastTrend, List.map_map, Function.comp_def]
    rw [toDailyCountMap_recipientCount, sum_series]
    exact Tally.total_congr fun b _ => by rw [listings, if_neg h]

/-- Where the trends list an instant once or not at all, they count those they list. -/
theorem listed_eq_countP {instants : List Date} {q : Date → Bool}
    (h : ∀ t ∈ instants, trendStart env ≤ t → listings env db orgId t = if q t then 1 else 0) :
    listed env db orgId instants = instants.countP fun t => trendStart env ≤ t && q t := by
  have hlistings : ∀ t ∈ instants.filter (trendStart env ≤ ·),
      (listings env db orgId t : ℤ) = if q t then 1 else 0 := by
    intro t ht
    obtain ⟨hmem, hstart⟩ := List.mem_filter.mp ht
    rw [h t hmem (of_decide_eq_true hstart)]
    split_ifs <;> rfl
  rw [listed, Tally.total_congr hlistings, Tally.total_ite_one, List.countP_filter]
  simp only [Bool.and_comm]

end Sums

section Completeness

variable {env : OverviewEnv} {db : Db} {orgId userId : Id} {user : Option AuthenticatedUser}

def inTrendWindow (env : OverviewEnv) (t : Date) : Bool := trendStart env ≤ t && t ≤ env.now

/-- Every trend adds up to all that its rows have in the window, and the broadcasts of the last
thirty days are those of the trend. -/
structure TrendsComplete (env : OverviewEnv) (db : Db) (orgId : Id)
    (overview : DashboardOverviewResponseDto) : Prop where
  created : (overview.trends.maintenance.map (·.created)).sum =
    ((ownRequests db orgId).map (·.createdAt)).countP (inTrendWindow env)
  completed : (overview.trends.maintenance.map (·.completed)).sum =
    ((ownRequests db orgId).filterMap (·.completedAt)).countP (inTrendWindow env)
  visitors : (overview.trends.visitors.map (·.created)).sum =
    ((ownVisitors db orgId).map (·.createdAt)).countP (inTrendWindow env)
  sent : (overview.trends.broadcasts.map (·.sent)).sum =
    ((ownBroadcasts db orgId).map (·.createdAt)).countP (inTrendWindow env)
  recipients : (overview.trends.broadcasts.map (·.recipientCount)).sum =
    Tally.total (·.recipientCount) ((ownBroadcasts db orgId).filter (inTrendWindow env ·.createdAt))
  last30Days : (overview.trends.broadcasts.map (·.sent)).sum = overview.summary.broadcastsLast30Days

/-- All instants that the trends count. -/
def trendInstants (db : Db) (orgId : Id) : List Date :=
  (ownRequests db orgId).map (·.createdAt) ++ (ownRequests db orgId).filterMap (·.completedAt) ++
    (ownVisitors db orgId).map (·.createdAt) ++ (ownBroadcasts db orgId).map (·.createdAt)

theorem forall_trendInstants {P : Date → Prop} :
    (∀ t ∈ trendInstants db orgId, P t) ↔
      (∀ t ∈ (ownRequests db orgId).map (·.createdAt), P t) ∧
        (∀ t ∈ (ownRequests db orgId).filterMap (·.completedAt), P t) ∧
        (∀ t ∈ (ownVisitors db orgId).map (·.createdAt), P t) ∧
        ∀ t ∈ (ownBroadcasts db orgId).map (·.createdAt), P t := by
  simp only [trendInstants, List.forall_mem_append, and_assoc]

/-- Where just the instants up to now are listed, and each once, no trend loses any. -/
theorem trendsComplete_of_listings
    (h : ∀ t ∈ trendInstants db orgId, trendStart env ≤ t →
      listings env db orgId t = if t ≤ env.now then 1 else 0)
    (hlater : ownBuildings db orgId ≠ [] → ∀ b ∈ ownBroadcasts db orgId,
      trendStart env ≤ b.createdAt → b.createdAt ≤ env.now) :
    TrendsComplete env db orgId (overviewOf env db orgId userId) := by
  obtain ⟨hcreated, hcompleted, hvisitors, hsent⟩ := forall_trendInstants.mp h
  have hcount : ∀ {instants : List Date}, (∀ t ∈ instants, trendStart env ≤ t →
      listings env db orgId t = if t ≤ env.now then 1 else 0) →
      listed env db orgId instants = instants.countP (inTrendWindow env) := by
    intro instants hinstants
    refine listed_eq_countP fun t ht hstart => ?_
    simpa using hinstants t ht hstart
  refine ⟨sum_created.trans (hcount hcreated), sum_completed.trans (hcount hcompleted),
    sum_visitors.trans (hcount hvisitors), sum_sent.trans (hcount hsent), ?_, ?_⟩
  · rw [sum_recipients, Tally.total_filter, Tally.total_filter]
    refine Tally.total_congr fun b hb => ?_
    by_cases hstart : trendStart env ≤ b.createdAt
    · have hb' := hsent b.createdAt (List.mem_map_of_mem hb) hstart
      by_cases hnow : b.createdAt ≤ env.now <;> simp [inTrendWindow, hstart, hnow, hb']
    · simp [inTrendWindow, hstart]
  · rw [sum_sent, overviewOf_last30Days]
    split_ifs with hnone
    · exact listed_of_empty hnone
    · have hwindow : (ownBroadcasts db orgId).countP (inTrendWindow env ·.createdAt) =
          (ownBroadcasts db orgId).countP (trendStart env ≤ ·.createdAt) := by
        refine List.countP_congr fun b hb => ?_
        simp only [inTrendWindow, Bool.and_eq_true, decide_eq_true_eq]
        exact ⟨And.left, fun hstart => ⟨hstart, hlater hnone b hb hstart⟩⟩
      rw [hcount hsent, List.countP_map, ← List.countP_eq_length_filter]
      exact congrArg Nat.cast hwindow

section FixedZone

/-- With clocks that are never changed, the days up to the one on which today begins. -/
def Listed (env : OverviewEnv) (db : Db) (orgId : Id) (t : Date) : Prop :=
  ownBuildings db orgId ≠ [] ∧ utcDay t ≤ utcDay (todayStart env)

instance (t : Date) : Decidable (Listed env db orgId t) := inferInstanceAs (Decidable (_ ∧ _))

/-- What has happened in the window is listed, nothing that is listed has not, and no broadcast
is dated after now. -/
structure WindowListed (env : OverviewEnv) (db : Db) (orgId : Id) : Prop where
  instants : ∀ t ∈ trendInstants db orgId, trendStart env ≤ t →
    (Listed env db orgId t ↔ t ≤ env.now)
  broadcasts : ownBuildings db orgId ≠ [] → ∀ b ∈ ownBroadcasts db orgId,
    trendStart env ≤ b.createdAt → b.createdAt ≤ env.now

variable {offset : ℤ} {hoffset : -msPerDay < offset ∧ offset < msPerDay}

theorem listings_fixed (hzone : env.zone = .fixed offset hoffset) {t : Date}
    (ht : trendStart env ≤ t) :
    listings env db orgId t = if Listed env db orgId t then 1 else 0 := by
  have hfrom : (-((DASHBOARD_TREND_DAYS : ℤ) - 1)) = -29 := by decide
  have hstart : utcDay (trendStart env) = utcDay (todayStart env) - 29 := by
    rw [trendStart, hzone, Zone.fixed_addDays, hfrom, LocalTime.utcDay_add_days]
    omega
  have hday := LocalTime.utcDay_mono ht
  have hdays : seriesDays env =
      (List.range DASHBOARD_TREND_DAYS).map fun (index : ℕ) => utcDay (trendStart env) + index := by
    rw [seriesDays, hzone]
    simp only [Zone.fixed_addDays, LocalTime.utcDay_add_days]
  have hnodup : (seriesDays env).Nodup := by
    rw [hdays]
    exact List.nodup_range.map fun i j h => by simpa using h
  have hmem : utcDay t ∈ seriesDays env ↔ utcDay t ≤ utcDay (todayStart env) := by
    rw [hdays, List.mem_map]
    constructor
    · rintro ⟨index, hindex, h⟩
      have hlt := List.mem_range.mp hindex
      simp only [DASHBOARD_TREND_DAYS] at hlt
      omega
    · intro h
      refine ⟨(utcDay t - utcDay (trendStart env)).toNat, List.mem_range.mpr ?_, by omega⟩
      simp only [DASHBOARD_TREND_DAYS]
      omega
  by_cases hnone : ownBuildings db orgId = []
  · simp [listings, Listed, hnone]
  · simp only [listings, Listed, hnone, if_false, hnodup.count, hmem, ne_eq, not_false_eq_true,
      true_and]

/-- The days listed end before now, or now is on one of them. -/
theorem listed_comparable : (∀ t, Listed env db orgId t → t ≤ env.now) ∨
    ∀ t, t ≤ env.now → Listed env db orgId t := by
  by_cases hall : ownBuildings db orgId ≠ [] ∧ utcDay env.now ≤ utcDay (todayStart env)
  · right
    intro t ht
    exact ⟨hall.1, (LocalTime.utcDay_mono ht).trans hall.2⟩
  · left
    intro t ht
    by_contra hlater
    exact hall ⟨ht.1, (LocalTime.utcDay_mono (not_le.mp hlater).le).trans ht.2⟩

theorem countP_listed_iff {instants : List Date} :
    instants.countP (fun t => trendStart env ≤ t && Listed env db orgId t) =
        instants.countP (inTrendWindow env) ↔
      ∀ t ∈ instants, trendStart env ≤ t → (Listed env db orgId t ↔ t ≤ env.now) := by
  have hiff : ∀ t, ((trendStart env ≤ t && Listed env db orgId t : Bool) = inTrendWindow env t) ↔
      (trendStart env ≤ t → (Listed env db orgId t ↔ t ≤ env.now)) := by
    intro t
    rw [Bool.eq_iff_iff]
    simp only [inTrendWindow, Bool.and_eq_true, decide_eq_true_eq]
    exact and_congr_right_iff
  rcases @listed_comparable env db orgId with hcomparable | hcomparable
  · rw [Tally.countP_eq_iff]
    · exact forall₂_congr fun t _ => hiff t
    · intro t _ ht
      simp only [inTrendWindow, Bool.and_eq_true, decide_eq_true_eq] at ht ⊢
      exact ⟨ht.1, hcomparable t ht.2⟩
  · rw [eq_comm, Tally.countP_eq_iff]
    · exact forall₂_congr fun t _ => eq_comm.trans (hiff t)
    · intro t _ ht
      simp only [inTrendWindow, Bool.and_eq_true, decide_eq_true_eq] at ht ⊢
      exact ⟨ht.1, hcomparable t ht.2⟩

theorem trendsComplete_fixed_iff (hzone : env.zone = .fixed offset hoffset) :
    TrendsComplete env db orgId (overviewOf env db orgId userId) ↔ WindowListed env db orgId := by
  have hlisted : ∀ {instants : List Date},
      listed env db orgId instants = instants.countP (inTrendWindow env) ↔
        ∀ t ∈ instants, trendStart env ≤ t → (Listed env db orgId t ↔ t ≤ env.now) := by
    intro instants
    rw [listed_eq_countP (q := fun t => Listed env db orgId t), Nat.cast_inj, countP_listed_iff]
    intro t _ ht
    simpa using listings_fixed hzone ht
  constructor
  · intro h
    refine ⟨forall_trendInstants.mpr ⟨hlisted.mp (sum_created.symm.trans h.created),
      hlisted.mp (sum_completed.symm.trans h.completed),
      hlisted.mp (sum_visitors.symm.trans h.visitors), hlisted.mp (sum_sent.symm.trans h.sent)⟩, ?_⟩
    intro hbuildings
    have hlast := h.last30Days
    rw [h.sent, overviewOf_last30Days, if_neg hbuildings, Nat.cast_inj, List.countP_map,
      ← List.countP_eq_length_filter, Tally.countP_eq_iff] at hlast
    · intro b hb hstart
      have hboth := (hlast b hb).trans (decide_eq_true hstart)
      simp only [Function.comp_apply, inTrendWindow, Bool.and_eq_true, decide_eq_true_eq] at hboth
      exact hboth.2
    · intro b _ hb
      simp only [Function.comp_apply, inTrendWindow, Bool.and_eq_true, decide_eq_true_eq] at hb
      exact decide_eq_true hb.1
  · intro h
    refine trendsComplete_of_listings (fun t ht hstart => ?_) h.broadcasts
    rw [listings_fixed hzone hstart]
    simp only [h.instants t ht hstart]

end FixedZone

section AnyZone

/-- Each day of the window has the start of just one of the thirty local days. -/
def DaysListedOnce (env : OverviewEnv) : Prop :=
  ∀ t, trendStart env ≤ t → t ≤ env.now → (seriesDays env).count (utcDay t) = 1

def oneBuilding (orgId : Id) : Building := ⟨"tower", orgId, "Alpha Tower"⟩

def visitorAt (orgId : Id) (t : Date) : Visitor where
  id := "visitor"
  orgId := orgId
  buildingId := "tower"
  visitorName := "John Doe"
  type := .OTHER
  status := .EXPECTED
  createdAt := t
  building := some ⟨"Alpha Tower"⟩
  unit := none

/-- A building and one visitor of it. -/
def oneVisitor (orgId : Id) (t : Date) : Db where
  buildings := ⟨[oneBuilding orgId], List.nodup_singleton _⟩
  units := .empty _
  occupancies := .empty _
  leases := .empty _
  maintenanceRequests := .empty _
  visitors := ⟨[visitorAt orgId t], List.nodup_singleton _⟩
  broadcasts := .empty _
  parkingSlots := .empty _
  parkingAllocations := .empty _
  notifications := .empty _

theorem ownVisitors_oneVisitor (orgId : Id) (t : Date) :
    ownVisitors (oneVisitor orgId t) orgId = [visitorAt orgId t] := by
  simp [ownVisitors, oneVisitor, visitorAt]

theorem ownBuildings_oneVisitor (orgId : Id) (t : Date) :
    ownBuildings (oneVisitor orgId t) orgId = [oneBuilding orgId] := by
  simp [ownBuildings, oneVisitor, oneBuilding]

theorem trendInstants_oneVisitor (orgId : Id) (t : Date) :
    trendInstants (oneVisitor orgId t) orgId = [t] := by
  rw [trendInstants, ownVisitors_oneVisitor]
  rfl

theorem trendsComplete_iff_daysListedOnce :
    (∀ db, ownBuildings db orgId ≠ [] → (∀ t ∈ trendInstants db orgId, t ≤ env.now) →
        TrendsComplete env db orgId (overviewOf env db orgId userId)) ↔
      DaysListedOnce env := by
  constructor
  · intro h t hstart hnow
    have hbuildings : ownBuildings (oneVisitor orgId t) orgId ≠ [] := by
      rw [ownBuildings_oneVisitor]
      exact List.cons_ne_nil _ _
    have hvisitors := (h (oneVisitor orgId t) hbuildings (by
      rw [trendInstants_oneVisitor]
      simpa using hnow)).visitors
    rw [sum_visitors, ownVisitors_oneVisitor] at hvisitors
    simpa [listed, listings, hbuildings, visitorAt, hstart, hnow, inTrendWindow] using hvisitors
  · intro h db hbuildings hnow
    refine trendsComplete_of_listings (fun t ht hstart => ?_) fun _ b hb _ => ?_
    · rw [listings, if_neg hbuildings, h t hstart (hnow t ht), if_pos (hnow t ht)]
    · exact hnow _ (List.mem_append_right _ (List.mem_map_of_mem hb))

/-- With clocks that are never changed it is enough that it is the same day in UTC as when the
local day began. -/
theorem daysListedOnce_fixed_iff {offset : ℤ} {hoffset : -msPerDay < offset ∧ offset < msPerDay}
    (hzone : env.zone = .fixed offset hoffset) :
    DaysListedOnce env ↔ utcDay env.now ≤ utcDay (todayStart env) := by
  have hbuildings : ownBuildings (oneVisitor "org" env.now) "org" ≠ [] := by
    rw [ownBuildings_oneVisitor]
    exact List.cons_ne_nil _ _
  have hcount : ∀ t, trendStart env ≤ t →
      ((seriesDays env).count (utcDay t) = 1 ↔ utcDay t ≤ utcDay (todayStart env)) := by
    intro t ht
    have hlistings := @listings_fixed env (oneVisitor "org" env.now) "org" offset hoffset hzone t ht
    rw [listings, if_neg hbuildings] at hlistings
    rw [hlistings]
    simp [Listed, hbuildings]
  constructor
  · intro h
    have hstart : trendStart env ≤ env.now := by
      have hbounds := @trendStart_bounds env
      simp only [msPerDay, Date] at *
      omega
    exact (hcount env.now hstart).mp (h env.now hstart (le_refl _))
  · intro h t hstart hnow
    exact (hcount t hstart).mpr ((LocalTime.utcDay_mono hnow).trans h)

end AnyZone

theorem getOverview_eq (hscope : assertOrgScope user = .ok orgId)
    (huser : assertUserId user = .ok userId) :
    getOverview env db user = .ok (overviewOf env db orgId userId) := by
  rw [getOverview, hscope, huser]
  rfl

/-- Whether the trends lose something depends on the zone and on now: they never do exactly
when each day of the window has the start of just one local day. Where the clocks are never
changed, they lose nothing exactly when the rows on days up to the one on which today begins
are those that have happened. -/
theorem getOverview_trendsComplete_iff (hscope : assertOrgScope user = .ok orgId)
    (huser : assertUserId user = .ok userId) :
    ((∀ db overview, ownBuildings db orgId ≠ [] → (∀ t ∈ trendInstants db orgId, t ≤ env.now) →
        getOverview env db user = .ok overview → TrendsComplete env db orgId overview) ↔
      DaysListedOnce env) ∧
    ∀ offset hoffset, env.zone = .fixed offset hoffset →
      ∀ db overview, getOverview env db user = .ok overview →
        (TrendsComplete env db orgId overview ↔ WindowListed env db orgId) := by
  refine ⟨?_, fun offset hoffset hzone db overview h => ?_⟩
  · rw [← @trendsComplete_iff_daysListedOnce env orgId userId]
    refine forall_congr' fun db => ⟨fun h hbuildings hnow => ?_, fun h overview hbuildings hnow hok => ?_⟩
    · exact h _ hbuildings hnow (getOverview_eq hscope huser)
    · obtain rfl := Except.ok.inj ((getOverview_eq hscope huser).symm.trans hok)
      exact h hbuildings hnow
  · obtain rfl := Except.ok.inj ((getOverview_eq hscope huser).symm.trans h)
    exact trendsComplete_fixed_iff hzone

end Completeness

section Noon

def noonIn (offset : ℤ) (hoffset : -msPerDay < offset ∧ offset < msPerDay) : OverviewEnv where
  zone := .fixed offset hoffset
  now := 1775203200000
  nameLe a b := a ≤ b
  clock := by decide

theorem utcOffset_lt : -msPerDay < 0 ∧ 0 < msPerDay := by decide

theorem utc_daysListedOnce : DaysListedOnce (noonIn 0 utcOffset_lt) :=
  (daysListedOnce_fixed_iff rfl).mpr (by decide)

/-- A visitor registered an hour ago, on a server in UTC. -/
theorem visitor_counted_in_utc :
    TrendsComplete (noonIn 0 utcOffset_lt) (oneVisitor "org" 1775199600000) "org"
      (overviewOf (noonIn 0 utcOffset_lt) (oneVisitor "org" 1775199600000) "org" "manager") :=
  (@getOverview_trendsComplete_iff _ "org" "manager" (some dashboardUser) rfl rfl).1.mpr
    utc_daysListedOnce _ _ (by decide) (by decide) rfl

/-- On a server in Dubai nothing of today after four in the morning is on a day of the trends. -/
theorem visitor_lost_in_dubai :
    (∀ t ∈ trendInstants (oneVisitor "org" 1775199600000) "org",
        t ≤ (noonIn 14400000 dubaiOffset_lt).now) ∧
      ∃ overview, getOverview (noonIn 14400000 dubaiOffset_lt) (oneVisitor "org" 1775199600000)
          (some dashboardUser) = .ok overview ∧
        (overview.trends.visitors.map (·.created)).sum = 0 ∧
        ¬ TrendsComplete (noonIn 14400000 dubaiOffset_lt) (oneVisitor "org" 1775199600000) "org"
          overview := by
  have hzero : ((overviewOf (noonIn 14400000 dubaiOffset_lt) (oneVisitor "org" 1775199600000) "org"
      "manager").trends.visitors.map (·.created)).sum = 0 := by
    rw [sum_visitors]
    decide
  refine ⟨by decide, _, rfl, hzero, fun h => ?_⟩
  exact absurd (hzero.symm.trans h.visitors) (by decide)

end Noon

end Towerdesk.Dashboard
