import Towerdesk.Residents.ResidentList

/-!
# What a search among residents finds

The list is read to its end by its cursors. It shows the residents that the text and the
status leave exactly when the text finds nobody who is no resident.
-/

namespace Towerdesk.Residents

open CursorPages (Walk Serves)
open IsoDate (TimeValue)

section Cursor

variable {ι : Type*} {runtime : ListRuntime ι} {u : OrgUser}

theorem decodedText_encode : CursorText.decodedText runtime.replaceMalformed
    (encodeOrgResidentCursor u) = JsonText.stringify
      [("createdAt", .ofList (IsoDate.toISOString u.createdAt)), ("id", u.id)] :=
  CursorText.decodedText_ofText _

theorem parseJson_stringify {createdAt id : String} :
    runtime.parseJson (JsonText.stringify [("createdAt", createdAt), ("id", id)]) =
      some ⟨some createdAt, some id⟩ := by
  have hparse := JsonText.parse_stringify [("createdAt", createdAt), ("id", id)]
  simp only [List.map_cons, List.map_nil] at hparse
  rw [ListRuntime.parseJson, hparse]

theorem toISOString_ne_empty {time : TimeValue} :
    String.ofList (IsoDate.toISOString time) ≠ "" := by
  intro hempty
  have hparse := IsoDate.parse_toISOString time
  have hnil : IsoDate.toISOString time = [] := by simpa using congrArg String.toList hempty
  have hnone : IsoDate.parse [] = none := by decide
  rw [hnil, hnone] at hparse
  cases hparse

theorem encode_ne_empty : encodeOrgResidentCursor u ≠ "" := by
  refine CursorText.ofText_ne_empty fun hempty => ?_
  have hlist := congrArg String.toList hempty
  rw [JsonText.stringify, String.toList_ofList] at hlist
  cases hlist

theorem readCursor_encode (hid : u.id ≠ "") :
    readOrgResidentCursor runtime (some (encodeOrgResidentCursor u)) =
      .ok (some ⟨u.id, u.createdAt⟩) := by
  have hcursor : truthy (some (encodeOrgResidentCursor u)) = some (encodeOrgResidentCursor u) :=
    truthy_eq_some.mpr ⟨rfl, encode_ne_empty⟩
  have htruthy : truthy (some u.id) = some u.id := truthy_eq_some.mpr ⟨rfl, hid⟩
  have htime : truthy (some (String.ofList (IsoDate.toISOString u.createdAt))) =
      some (.ofList (IsoDate.toISOString u.createdAt)) :=
    truthy_eq_some.mpr ⟨rfl, toISOString_ne_empty⟩
  have hdate : runtime.parseDate (.ofList (IsoDate.toISOString u.createdAt)) =
      some u.createdAt := by
    rw [ListRuntime.parseDate, String.toList_ofList, IsoDate.parse_toISOString, Option.some_or]
  have hdecode : decodeOrgResidentCursor runtime (encodeOrgResidentCursor u) =
      .ok ⟨u.id, u.createdAt⟩ := by
    rw [decodeOrgResidentCursor, decodedText_encode, parseJson_stringify]
    simp only [Outcome.orThrow, htruthy, htime, hdate, bind, Except.bind, pure, Except.pure]
  rw [readOrgResidentCursor, hcursor]
  exact congrArg (some <$> ·) hdecode

end Cursor

section Pages

variable {ι : Type*} [LinearOrder ι] {runtime : ListRuntime ι} {db : ListDb} {orgId : Id}
  {query : ListOrgResidentsQueryDto} {user : Option AuthenticatedUser}

/-- What the listing finds, in its order. -/
def found (runtime : ListRuntime ι) (db : ListDb) (orgId : Id)
    (query : ListOrgResidentsQueryDto) : List OrgUser :=
  Keyset.sorted (orgUserKey runtime)
    (db.users.rows.filter (listWhere runtime db orgId query none).matches)

theorem matches_addCursor (cursor : Option OrgResidentCursor) (w : Where) (u : OrgUser) :
    (addCursor runtime cursor w).matches u =
      (w.matches u && (cursor.map fun c => toLex (c.createdAt, runtime.collate c.id)).all
        fun k => decide (orgUserKey runtime u < k)) := by
  cases cursor with
  | none => exact (Bool.and_true _).symm
  | some cursor =>
    have hbefore : beforeOrgResident runtime cursor u = decide (orgUserKey runtime u <
        toLex (cursor.createdAt, runtime.collate cursor.id)) := by
      simp only [beforeOrgResident, orgUserKey, Prod.Lex.toLex_lt_toLex]
    rw [Bool.eq_iff_iff, Option.map_some, Option.all_some, ← hbefore]
    cases hand : w.AND with
    | none => simp [addCursor, Where.matches, hand, and_assoc]
    | some conditions => simp [addCursor, Where.matches, hand, and_assoc]

omit [LinearOrder ι] in
theorem nodup_orgUserKey : (db.users.rows.map (orgUserKey runtime)).Nodup := by
  refine List.Nodup.of_map (fun key => (ofLex key).2) ?_
  have hids : (db.users.rows.map (orgUserKey runtime)).map (fun key => (ofLex key).2) =
      (db.users.rows.map OrgUser.key).map runtime.collate := by
    rw [List.map_map, List.map_map]
    rfl
  rw [hids]
  exact db.users.nodup.map runtime.collate.injective

theorem pairwise_found : (found runtime db orgId query).Pairwise fun a b =>
    orgUserKey runtime b < orgUserKey runtime a :=
  Keyset.pairwise_sorted (nodup_orgUserKey.sublist ((List.filter_sublist).map _))

theorem mem_found {u : OrgUser} : u ∈ found runtime db orgId query ↔
    u ∈ db.users ∧ (listWhere runtime db orgId query none).matches u = true := by
  rw [found, Keyset.mem_sorted, List.mem_filter]
  rfl

theorem findOrgUsers_eq (cursor : Option OrgResidentCursor) :
    findOrgUsers runtime db (listWhere runtime db orgId query cursor) (query.pageLimit + 1) =
      Keyset.window (orgUserKey runtime) query.pageLimit (found runtime db orgId query)
        (cursor.map fun c => toLex (c.createdAt, runtime.collate c.id)) := by
  have hmatches := funext (@matches_addCursor ι _ runtime cursor
    (listWhere runtime db orgId query none))
  rw [findOrgUsers, Keyset.window, found, ← Keyset.sorted_below nodup_orgUserKey, ← hmatches]
  rfl

/-- The listing as a reader who follows its cursors calls it. -/
def listing (runtime : ListRuntime ι) (db : ListDb) (user : Option AuthenticatedUser)
    (query : ListOrgResidentsQueryDto) : CursorPages.Listing OrgResidentListRow HttpException :=
  fun cursor => (fun page => (page.items, page.nextCursor)) <$>
    listResidentsInOrg runtime db user { query with cursor }

abbrev view (db : ListDb) (query : ListOrgResidentsQueryDto) : OrgUser → OrgResidentListRow :=
  toOrgResidentRow db (query.includeProfile = some "true")

theorem listing_serves (huser : assertOrgScope user = .ok orgId) :
    Serves (orgUserKey runtime) query.pageLimit (found runtime db orgId query)
      (listing runtime db user query) (view db query) encodeOrgResidentCursor := by
  have hpage (cursor : Option OrgResidentCursor) :=
    CursorPages.page_of_window (orgUserKey runtime) query.pageLimit (found runtime db orgId query)
      (view db query) encodeOrgResidentCursor _ (findOrgUsers_eq cursor)
  constructor
  · rw [listing, listResidentsInOrg, huser]
    exact congrArg Except.ok (hpage none)
  · intro u hu
    have hread : readOrgResidentCursor runtime (some (encodeOrgResidentCursor u)) =
        .ok (some ⟨u.id, u.createdAt⟩) := readCursor_encode (db.ids u (mem_found.mp hu).1)
    rw [listing, listResidentsInOrg, huser]
    simp only [hread]
    exact congrArg Except.ok (hpage (some ⟨u.id, u.createdAt⟩))

theorem pageLimit_pos : 0 < query.pageLimit := by
  rw [ListOrgResidentsQueryDto.pageLimit]
  omega

theorem walk_iff (huser : assertOrgScope user = .ok orgId) (seen : List OrgResidentListRow) :
    Walk (listing runtime db user query) none seen ↔
      seen = (found runtime db orgId query).map (view db query) :=
  (listing_serves huser).walk_iff pageLimit_pos pairwise_found seen

end Pages

section Search

variable {ι : Type*} [LinearOrder ι] {runtime : ListRuntime ι} {db : ListDb} {orgId : Id}
  {query : ListOrgResidentsQueryDto} {user : Option AuthenticatedUser} {u : OrgUser}

/-- Has a profile, an occupancy or an invite. -/
def isResident (db : ListDb) (u : OrgUser) : Bool :=
  hasProfile db u || someOccupancy db (fun _ => true) u || wasInvited db u

def passesText (runtime : ListRuntime ι) (search : Option String) (u : OrgUser) : Bool :=
  search.all fun q => nameContains runtime q u || emailContains runtime q u

def ResidentListStatus.admits : ResidentListStatus → ResidentStatusCategory → Bool
  | .ALL, _ => true
  | .WITH_OCCUPANCY, category => category = .ACTIVE
  | .WITHOUT_OCCUPANCY, category => category ≠ .ACTIVE
  | .NEW, category => category = .NEW
  | .FORMER, category => category = .FORMER

/-- Of the organisation, found by the text, and shown with a status that is asked for. -/
def Selected (runtime : ListRuntime ι) (db : ListDb) (orgId : Id)
    (query : ListOrgResidentsQueryDto) (u : OrgUser) : Prop :=
  u.orgId = some orgId ∧ passesText runtime query.search u = true ∧
    (query.status.getD .ALL).admits (view db query u).residentStatus = true

theorem residentStatusOf_perm {l l' : List Occupancy} (h : l.Perm l') :
    residentStatusOf l = residentStatusOf l' := by
  unfold residentStatusOf
  rw [h.any_eq, h.length_eq]

theorem residentStatus_view :
    (view db query u).residentStatus = residentStatusOf (occupanciesOf db u) :=
  residentStatusOf_perm (List.perm_insertionSort _ _)

theorem someOccupancy_true : someOccupancy db (fun _ => true) u = true ↔
    (occupanciesOf db u).length ≠ 0 := by
  cases hocc : occupanciesOf db u <;> simp [someOccupancy, hocc]

/-- What each status stands for in the query is what the row is shown with. -/
theorem admits_iff {status : ResidentListStatus} :
    status.admits (residentStatusOf (occupanciesOf db u)) = true ↔
      match status with
      | .ALL => True
      | .WITH_OCCUPANCY => someOccupancy db isActive u = true
      | .WITHOUT_OCCUPANCY => noOccupancy db isActive u = true
      | .NEW => noOccupancy db (fun _ => true) u = true
      | .FORMER => someOccupancy db (fun _ => true) u = true ∧ noOccupancy db isActive u = true := by
  have hnone (p : Occupancy → Bool) : noOccupancy db p u = !someOccupancy db p u := rfl
  have hactive : someOccupancy db isActive u = true → someOccupancy db (fun _ => true) u = true :=
    fun h => List.any_eq_true.mpr ((List.any_eq_true.mp h).imp fun _ ho => ⟨ho.1, rfl⟩)
  have hcategory : residentStatusOf (occupanciesOf db u) =
      if someOccupancy db isActive u = true then .ACTIVE
      else if someOccupancy db (fun _ => true) u = true then .FORMER else .NEW := by
    simp only [residentStatusOf, someOccupancy_true, ite_not]
    rfl
  rw [hcategory]
  cases hsome : someOccupancy db isActive u with
  | true =>
    have hany := hactive hsome
    cases status <;> simp [ResidentListStatus.admits, hnone, hsome, hany]
  | false =>
    cases hany : someOccupancy db (fun _ => true) u with
    | true => cases status <;> simp [ResidentListStatus.admits, hnone, hsome, hany]
    | false => cases status <;> simp [ResidentListStatus.admits, hnone, hsome, hany]

theorem matches_setStatus {status : ResidentListStatus} {conditions : List Condition} :
    (setStatus db status ⟨orgId, conditions, none, none⟩).matches u = true ↔
      u.orgId = some orgId ∧ conditions.any (· u) = true ∧
        status.admits (residentStatusOf (occupanciesOf db u)) = true := by
  rw [admits_iff]
  cases status with
  | ALL => simp [setStatus, Where.matches]
  | WITH_OCCUPANCY => simp [setStatus, Where.matches]
  | WITHOUT_OCCUPANCY => simp [setStatus, Where.matches]
  | NEW => simp [setStatus, Where.matches]
  | FORMER => simp [setStatus, Where.matches]

theorem matches_listWhere : (listWhere runtime db orgId query none).matches u = true ↔
    Selected runtime db orgId query u ∧ (query.search = none → isResident db u = true) := by
  rw [Selected, residentStatus_view]
  cases hsearch : query.search with
  | none =>
    have hwhere : listWhere runtime db orgId query none = setStatus db (query.status.getD .ALL)
        ⟨orgId, [hasProfile db, someOccupancy db fun _ => true, wasInvited db], none, none⟩ := by
      rw [listWhere, hsearch]
      rfl
    rw [hwhere, matches_setStatus]
    simp only [passesText, isResident, List.any_cons, List.any_nil, Bool.or_false, Bool.or_assoc,
      Option.all_none, true_and, forall_const]
    exact ⟨fun ⟨h, hor, hstatus⟩ => ⟨⟨h, hstatus⟩, hor⟩, fun ⟨⟨h, hstatus⟩, hor⟩ => ⟨h, hor, hstatus⟩⟩
  | some q =>
    have hwhere : listWhere runtime db orgId query none = setStatus db (query.status.getD .ALL)
        ⟨orgId, [nameContains runtime q, emailContains runtime q], none, none⟩ := by
      rw [listWhere, hsearch]
      rfl
    rw [hwhere, matches_setStatus]
    simp only [passesText, List.any_cons, List.any_nil, Bool.or_false, Option.all_some,
      reduceCtorEq, false_implies, and_true]

/-- The rows are those of the residents who are selected, each once. -/
def ShowsResidents (runtime : ListRuntime ι) (db : ListDb) (orgId : Id)
    (query : ListOrgResidentsQueryDto) (seen : List OrgResidentListRow) : Prop :=
  (seen.map (·.user.id)).Nodup ∧ ∀ row, row ∈ seen ↔ ∃ u ∈ db.users,
    Selected runtime db orgId query u ∧ isResident db u = true ∧ row = view db query u

theorem nodup_shown : (((found runtime db orgId query).map (view db query)).map (·.user.id)).Nodup := by
  have hids : ((found runtime db orgId query).map (view db query)).map (·.user.id) =
      (found runtime db orgId query).map OrgUser.key := by
    rw [List.map_map]
    rfl
  rw [hids, found, (Keyset.perm_sorted.map OrgUser.key).nodup_iff]
  exact db.users.nodup.sublist ((List.filter_sublist).map _)

theorem showsResidents_iff :
    ShowsResidents runtime db orgId query ((found runtime db orgId query).map (view db query)) ↔
      query.search = none ∨
        ∀ u ∈ db.users, Selected runtime db orgId query u → isResident db u = true := by
  constructor
  · rintro ⟨-, hrows⟩
    refine or_iff_not_imp_left.mpr fun hsearch u hu hselected => ?_
    have hfound : u ∈ found runtime db orgId query :=
      mem_found.mpr ⟨hu, matches_listWhere.mpr ⟨hselected, fun h => absurd h hsearch⟩⟩
    obtain ⟨u', -, -, hresident, hrow⟩ := (hrows _).mp (List.mem_map_of_mem hfound)
    obtain rfl : u = u' := congrArg OrgResidentListRow.user hrow
    exact hresident
  · intro h
    refine ⟨nodup_shown, fun row => ?_⟩
    rw [List.mem_map]
    constructor
    · rintro ⟨u, hfound, rfl⟩
      obtain ⟨hu, hmatches⟩ := mem_found.mp hfound
      obtain ⟨hselected, hresident⟩ := matches_listWhere.mp hmatches
      exact ⟨u, hu, hselected, h.elim hresident fun hall => hall u hu hselected, rfl⟩
    · rintro ⟨u, hu, hselected, hresident, rfl⟩
      exact ⟨u, mem_found.mpr ⟨hu, matches_listWhere.mpr ⟨hselected, fun _ => hresident⟩⟩, rfl⟩

/-- Reading the list to its end shows the residents who are selected, all of whom the list
without a text shows as well. -/
def SearchNarrows (runtime : ListRuntime ι) (db : ListDb) (user : Option AuthenticatedUser)
    (orgId : Id) (query : ListOrgResidentsQueryDto) : Prop :=
  ∃ seen, Walk (listing runtime db user query) none seen ∧
    ShowsResidents runtime db orgId query seen ∧
      ∀ all, Walk (listing runtime db user { query with q := none }) none all → seen ⊆ all

theorem searchNarrows_iff (huser : assertOrgScope user = .ok orgId) :
    SearchNarrows runtime db user orgId query ↔
      query.search = none ∨
        ∀ u ∈ db.users, Selected runtime db orgId query u → isResident db u = true := by
  rw [← showsResidents_iff]
  constructor
  · rintro ⟨seen, hwalk, hshows, -⟩
    obtain rfl := (walk_iff huser seen).mp hwalk
    exact hshows
  · intro hshows
    refine ⟨_, (walk_iff huser _).mpr rfl, hshows, fun all hall row hrow => ?_⟩
    obtain rfl := (walk_iff huser all).mp hall
    obtain ⟨u, hu, ⟨horg, -, hstatus⟩, hresident, rfl⟩ := (hshows.2 row).mp hrow
    refine List.mem_map_of_mem (mem_found.mpr ⟨hu, matches_listWhere.mpr ⟨?_, fun _ => hresident⟩⟩)
    exact ⟨horg, rfl, hstatus⟩

end Search

section Scene

/-- Texts that are the same but for case. -/
def containsLowercase (s q : String) : Bool :=
  (s.toList.map Char.toLower).tails.any ((q.toList.map Char.toLower).isPrefixOf ·)

def searchRuntime : ListRuntime Id where
  collate := .refl Id
  containsInsensitive := containsLowercase
  replaceMalformed := fun _ => ""
  parseOtherJson := fun _ => none
  parseOtherDate := fun _ => none

def orgMember (id email : String) : OrgUser where
  id
  email
  name := none
  phone := none
  orgId := some "org"
  isActive := true
  avatarUrl := none
  mustChangePassword := false
  createdAt := .epoch
  updatedAt := .epoch

/-- A resident with an occupancy, and an employee. -/
def searchDb : ListDb where
  users := ⟨[orgMember "ann" "ann@example.com", orgMember "bob" "bob@example.com"], by decide⟩
  ids := by decide
  residentProfiles := .empty _
  occupancies := ⟨[⟨"home", "tower", "1A", "ann", .ACTIVE, 0, none, 0, 0⟩], by decide⟩
  residentInvites := .empty _
  buildings := .empty _
  units := .empty _

def searchUser : Option AuthenticatedUser := some ⟨"admin", some "org"⟩

theorem search_shows_employee :
    ¬ ∀ (runtime : ListRuntime Id) (db : ListDb) (user : Option AuthenticatedUser) (orgId : Id)
      (query : ListOrgResidentsQueryDto), assertOrgScope user = .ok orgId →
        SearchNarrows runtime db user orgId query := by
  intro h
  have hnarrows := h searchRuntime searchDb searchUser "org" { q := some "Bob" } rfl
  obtain hsearch | hresident := (searchNarrows_iff rfl).mp hnarrows
  · exact absurd hsearch (by decide)
  · have hbob := hresident (orgMember "bob" "bob@example.com") (by decide)
      ⟨rfl, by decide, by decide⟩
    exact absurd hbob (by decide)

theorem resident_search_narrows_iff {ι : Type*} [LinearOrder ι] (runtime : ListRuntime ι)
    (db : ListDb) (user : Option AuthenticatedUser) (orgId : Id)
    (query : ListOrgResidentsQueryDto) (huser : assertOrgScope user = .ok orgId) :
    SearchNarrows runtime db user orgId query ↔
      query.search = none ∨
        ∀ u ∈ db.users, Selected runtime db orgId query u → isResident db u = true :=
  searchNarrows_iff huser

theorem ann_search_narrows_iff :
    SearchNarrows searchRuntime searchDb searchUser "org" { q := some "ANN" } ↔
      ListOrgResidentsQueryDto.search { q := some "ANN" } = none ∨
        ∀ u ∈ searchDb.users, Selected searchRuntime searchDb "org" { q := some "ANN" } u →
          isResident searchDb u = true :=
  resident_search_narrows_iff searchRuntime searchDb searchUser "org" { q := some "ANN" } rfl

end Scene

end Towerdesk.Residents
