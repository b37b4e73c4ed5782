import Towerdesk.Lib.Numeral
import Towerdesk.Lib.RowImport
import Towerdesk.Units.Csv

/-!
# The rows that an import keeps

The loop over the rows of an uploaded file keeps the rows it finds nothing wrong with. Whole
numbers and amounts are read from the front of a cell, whatever follows, and their sign is not
looked at: what is kept satisfies the create form exactly when each of these cells is a numeral
from end to end and not negative.
-/

namespace Towerdesk.Units

section Platforms

/-- The numbers of the platform, that of a value being the one nearest to it, where it is
finite. What is nearest to a whole number is whole. -/
structure Numbers where
  nearest : ℚ → Option ℚ
  nearest_whole : ∀ (n : ℤ) (q : ℚ), nearest n = some q → q.den = 1

def trimStart (value : String) : List Char := value.toList.dropWhile isSpace

/-- `Number.parseInt(value, 10)`, where it is finite. -/
def Numbers.parseInt (numbers : Numbers) (value : String) : Option ℤ :=
  ((Numeral.scanInteger (trimStart value)).bind fun n => numbers.nearest n).map (·.num)

/-- `Number.parseFloat(value)`, where it is finite. -/
def Numbers.parseFloat (numbers : Numbers) (value : String) : Option ℚ :=
  (Numeral.scan (trimStart value)).bind fun scanned => numbers.nearest scanned.1.value

def platformOf (numbers : Numbers) (toLowerCase toUpperCase : String → String) : Platform where
  toLowerCase
  toUpperCase
  parseInt := numbers.parseInt
  parseFloat := numbers.parseFloat

end Platforms

section Loop

variable (platform : Platform) (unitTypes : List UnitType) (used : List (String × String))

def isBlank (row : List (String × String)) : Bool := !row.any fun cell => trimString cell.2 ≠ ""

def labelsOf (rows : List (List (String × String))) : List String :=
  rows.filterMap (readCell used · "label")

/-- Nothing is wrong with the row behind those with these labels. -/
structure Accepted (seen : List String) (row : List (String × String)) (label : String) : Prop where
  unseen : label ∉ seen
  labelled : readCell used row "label" = some label
  fields : ∀ n, rowErrors platform unitTypes used row n = []

/-- What the loop finds of a row. -/
def verdict (entry : List (String × String) × ℕ) :
    RowImport.Verdict String ImportUnitsError (ℕ × CreateUnitDto) :=
  if isBlank entry.1 then .blank
  else
    match readCell used entry.1 "label" with
    | none => .refused [⟨entry.2 + 2, some "label", "Label is required"⟩]
    | some label =>
      .keyed label ⟨entry.2 + 2, some "label", "Duplicate label in CSV: " ++ label⟩
        (rowErrors platform unitTypes used entry.1 (entry.2 + 2))
        (entry.2 + 2, createUnitDtoOfRow platform unitTypes used entry.1 label)

def ParsedUnits.toScan (parsed : ParsedUnits) :
    RowImport.Scan String ImportUnitsError (ℕ × CreateUnitDto) :=
  ⟨parsed.seenLabels, parsed.units, parsed.errors⟩

variable {platform unitTypes used} {row : List (String × String)}
  {rows : List (List (String × String))} {seen : List String} {label : String} {i n : ℕ}
  {acc : ParsedUnits} {entry : List (String × String) × ℕ}

theorem readCell_ne_empty {canonical cell : String} (h : readCell used row canonical = some cell) :
    cell ≠ "" := by
  obtain ⟨_, -, h⟩ := Option.bind_eq_some_iff.mp h
  exact (truthy_eq_some.mp h).2

theorem not_blank_of_readCell {canonical cell : String}
    (h : readCell used row canonical = some cell) : isBlank row = false := by
  obtain ⟨actual, -, hcell⟩ := Option.bind_eq_some_iff.mp h
  obtain ⟨htrim, hne⟩ := truthy_eq_some.mp hcell
  cases hlookup : row.lookup actual with
  | none =>
    rw [hlookup] at htrim
    exact absurd (Option.some.inj htrim).symm hne
  | some value =>
    rw [hlookup] at htrim
    have hmem : (actual, value) ∈ row := by
      obtain ⟨pre, post, rfl, -⟩ := List.lookup_eq_some_iff.mp hlookup
      simp
    have hany : row.any (fun cell => trimString cell.2 ≠ "") = true := by
      refine List.any_eq_true.mpr ⟨_, hmem, ?_⟩
      have hvalue : trimString value = cell := Option.some.inj htrim
      simpa [hvalue] using hne
    rw [isBlank, hany]
    rfl

theorem columnError_eq_none_iff {column : UnitColumn} :
    columnError platform used row n column = none ↔
      ∀ cell, readCell used row column.canonical = some cell →
        ∃ value, parseCell platform column cell = .ok value := by
  rw [columnError]
  cases hread : readCell used row column.canonical with
  | none => exact iff_of_true rfl fun cell h => by cases h
  | some cell =>
    cases hparse : parseCell platform column cell with
    | ok value =>
      simp only [hparse]
      exact iff_of_true trivial fun cell' h => ⟨value, Option.some.inj h ▸ hparse⟩
    | error message =>
      simp only [hparse]
      refine iff_of_false (Option.some_ne_none _) fun h => ?_
      obtain ⟨value, hvalue⟩ := h cell rfl
      rw [hparse] at hvalue
      cases hvalue

theorem rowErrors_eq_nil_iff : rowErrors platform unitTypes used row n = [] ↔
    (∀ column cell, readCell used row (UnitColumn.canonical column) = some cell →
      ∃ value, parseCell platform column cell = .ok value) ∧
    ∀ name, readCell used row "unittype" = some name →
      (findUnitType platform unitTypes name).isSome := by
  have hall : ∀ column : UnitColumn, column ∈ UnitColumn.all := fun column => by
    cases column <;> decide
  rw [rowErrors, List.append_eq_nil_iff, List.filterMap_eq_nil_iff]
  refine and_congr ?_ ?_
  · simp only [columnError_eq_none_iff]
    exact ⟨fun h column => h column (hall column), fun h column _ => h column⟩
  · cases hread : readCell used row "unittype" with
    | none => exact iff_of_true rfl fun name h => by cases h
    | some name =>
      cases hfind : (findUnitType platform unitTypes name).isSome with
      | true =>
        simp only [hfind, if_true]
        exact iff_of_true trivial fun name' h => Option.some.inj h ▸ hfind
      | false =>
        simp only [hfind]
        refine iff_of_false (List.cons_ne_nil _ _) fun h => ?_
        rw [h name rfl] at hfind
        cases hfind

theorem row_of_mem_rowErrors {e : ImportUnitsError}
    (h : e ∈ rowErrors platform unitTypes used row n) : e.row = n := by
  rw [rowErrors, List.mem_append] at h
  obtain hcolumn | htype := h
  · obtain ⟨column, -, he⟩ := List.mem_filterMap.mp hcolumn
    unfold columnError at he
    split at he
    · cases he
    · split at he
      · cases he
      · rw [← Option.some.inj he]
  · split at htype
    · cases htype
    · split at htype
      · cases htype
      · rw [List.mem_singleton.mp htype]

theorem verdict_key : (verdict platform unitTypes used entry).key =
    readCell used entry.1 "label" := by
  rw [verdict]
  cases hread : readCell used entry.1 "label" with
  | none => split_ifs <;> rfl
  | some label =>
    rw [not_blank_of_readCell hread]
    rfl

theorem toScan_parseRow : (parseRow platform unitTypes used acc entry).toScan =
    acc.toScan.step (verdict platform unitTypes used entry) := by
  rw [parseRow, verdict, isBlank]
  dsimp only
  by_cases hany : entry.1.any (fun cell => trimString cell.2 ≠ "") = true
  · rw [if_neg (not_not.mpr hany), if_neg (by rw [hany]; exact Bool.false_ne_true)]
    cases readCell used entry.1 "label" with
    | none => rfl
    | some label =>
      simp only [RowImport.Scan.step, ParsedUnits.toScan]
      by_cases hseen : label ∈ acc.seenLabels
      · simp only [List.contains_iff_mem, if_pos hseen]
        exact (if_pos hseen).symm
      · simp only [List.contains_iff_mem, if_neg hseen]
        exact (if_neg hseen).symm
  · rw [if_pos hany, if_pos (by rw [Bool.eq_false_iff.mpr hany]; rfl)]
    rfl

theorem toScan_parseRows : (parseRows platform unitTypes used rows).toScan =
    RowImport.scan (rows.zipIdx.map (verdict platform unitTypes used)) := by
  have hstep : ∀ acc entry, ParsedUnits.toScan (parseRow platform unitTypes used acc entry) =
      (ParsedUnits.toScan acc).step (verdict platform unitTypes used entry) :=
    fun _ _ => toScan_parseRow
  exact RowImport.scan_eq hstep rfl

theorem keptAfter_eq_some_iff {unit : ℕ × CreateUnitDto} :
    (verdict platform unitTypes used (row, i)).keptAfter seen = some unit ↔
      ∃ label, Accepted platform unitTypes used seen row label ∧
        unit = (i + 2, createUnitDtoOfRow platform unitTypes used row label) := by
  rw [verdict]
  cases hread : readCell used row "label" with
  | none =>
    have hnone : ¬ ∃ label, Accepted platform unitTypes used seen row label ∧
        unit = (i + 2, createUnitDtoOfRow platform unitTypes used row label) := by
      rintro ⟨label, haccepted, -⟩
      rw [haccepted.labelled] at hread
      cases hread
    refine iff_of_false ?_ hnone
    split_ifs <;> exact fun h => by cases h
  | some label =>
    rw [not_blank_of_readCell hread, if_neg Bool.false_ne_true]
    simp only [RowImport.Verdict.keptAfter, Option.ite_none_right_eq_some, Option.some.injEq]
    constructor
    · rintro ⟨⟨hunseen, hfields⟩, rfl⟩
      refine ⟨label, ⟨hunseen, hread, fun m => ?_⟩, rfl⟩
      exact rowErrors_eq_nil_iff.mpr (rowErrors_eq_nil_iff.mp hfields)
    · rintro ⟨label', haccepted, rfl⟩
      obtain rfl := Option.some.inj (hread.symm.trans haccepted.labelled)
      exact ⟨⟨haccepted.unseen, haccepted.fields (i + 2)⟩, rfl⟩

theorem errorsAfter_eq_nil_iff :
    (verdict platform unitTypes used (row, i)).errorsAfter seen = [] ↔
      isBlank row = true ∨ ∃ label, Accepted platform unitTypes used seen row label := by
  rw [verdict]
  cases hread : readCell used row "label" with
  | none =>
    have hnone : ¬ ∃ label, Accepted platform unitTypes used seen row label := by
      rintro ⟨label, haccepted⟩
      rw [haccepted.labelled] at hread
      cases hread
    rw [or_iff_left hnone]
    cases hblank : isBlank row with
    | true => exact iff_of_true rfl rfl
    | false => exact iff_of_false (List.cons_ne_nil _ _) Bool.false_ne_true
  | some label =>
    have hblank := not_blank_of_readCell hread
    rw [hblank, if_neg Bool.false_ne_true, or_iff_right Bool.false_ne_true]
    simp only [RowImport.Verdict.errorsAfter]
    constructor
    · intro h
      by_cases hseen : label ∈ seen
      · rw [if_pos hseen] at h
        cases h
      · rw [if_neg hseen] at h
        exact ⟨label, hseen, hread, fun m => rowErrors_eq_nil_iff.mpr (rowErrors_eq_nil_iff.mp h)⟩
    · rintro ⟨label', haccepted⟩
      obtain rfl := Option.some.inj (hread.symm.trans haccepted.labelled)
      rw [if_neg haccepted.unseen, haccepted.fields]

theorem row_of_mem_errorsAfter {e : ImportUnitsError}
    (h : e ∈ (verdict platform unitTypes used (row, i)).errorsAfter seen) : e.row = i + 2 := by
  rw [verdict] at h
  split_ifs at h with hblank
  · cases h
  · cases hread : readCell used row "label" with
    | none =>
      rw [hread] at h
      rw [List.mem_singleton.mp h]
    | some label =>
      rw [hread] at h
      by_cases hseen : label ∈ seen
      · simp only [RowImport.Verdict.errorsAfter, if_pos hseen] at h
        rw [List.mem_singleton.mp h]
      · simp only [RowImport.Verdict.errorsAfter, if_neg hseen] at h
        exact row_of_mem_rowErrors h

theorem mem_parseRows_units {unit : ℕ × CreateUnitDto} :
    unit ∈ (parseRows platform unitTypes used rows).units ↔
      ∃ i row, rows[i]? = some row ∧
        ∃ label, Accepted platform unitTypes used (labelsOf used (rows.take i)) row label ∧
          unit = (i + 2, createUnitDtoOfRow platform unitTypes used row label) := by
  change unit ∈ (parseRows platform unitTypes used rows).toScan.kept ↔ _
  rw [toScan_parseRows, RowImport.mem_kept_rows (readCell used · "label") fun _ => verdict_key]
  exact exists₂_congr fun i row => and_congr_right fun _ => keptAfter_eq_some_iff

theorem mem_parseRows_errors {e : ImportUnitsError} :
    e ∈ (parseRows platform unitTypes used rows).errors ↔
      ∃ i row, rows[i]? = some row ∧ e ∈ (verdict platform unitTypes used (row, i)).errorsAfter
        (labelsOf used (rows.take i)) := by
  change e ∈ (parseRows platform unitTypes used rows).toScan.errors ↔ _
  rw [toScan_parseRows]
  exact RowImport.mem_errors_rows (readCell used · "label") fun _ => verdict_key

theorem parseRows_errors_eq_nil_iff : (parseRows platform unitTypes used rows).errors = [] ↔
    ∀ i row, rows[i]? = some row → isBlank row = true ∨
      ∃ label, Accepted platform unitTypes used (labelsOf used (rows.take i)) row label := by
  change (parseRows platform unitTypes used rows).toScan.errors = [] ↔ _
  rw [toScan_parseRows,
    RowImport.errors_rows_eq_nil_iff (readCell used · "label") fun _ => verdict_key]
  exact forall₃_congr fun i row _ => errorsAfter_eq_nil_iff

theorem nodup_labels :
    ((parseRows platform unitTypes used rows).units.map (·.2.label)).Nodup := by
  change ((parseRows platform unitTypes used rows).toScan.kept.map (·.2.label)).Nodup
  rw [toScan_parseRows]
  refine RowImport.nodup_keys fun key duplicate errors unit hmem => ?_
  obtain ⟨entry, -, hverdict⟩ := List.mem_map.mp hmem
  rw [verdict] at hverdict
  split_ifs at hverdict
  split at hverdict
  · cases hverdict
  · cases hverdict
    rfl

end Loop

section Forms

/-- What the decorators of the form ask of a column that is given. -/
def ColumnKind.Admits : ColumnKind → ColumnValue → Prop
  | .text, .text _ => True
  | .integer, .integer n => 0 ≤ n
  | .number, .number q => 0 ≤ q
  | .boolean, .boolean _ => True
  | .enum allowed, .enum name => name ∈ allowed
  | _, _ => False

/-- `CreateUnitDto` as the create route admits it. -/
structure CreateUnitDto.Valid (dto : CreateUnitDto) : Prop where
  label : dto.label ≠ ""
  columns : ∀ column value, dto.columns column = .value value → column.kind.Admits value
  unitTypeId : ∀ id, dto.unitTypeId = .value id → isUuid id = true
  amenityIds : ∀ ids, dto.amenityIds = .value ids → ids.Nodup ∧ ∀ id ∈ ids, isUuid id = true

variable (numbers : Numbers)

/-- As a whole the cell denotes the number. -/
def Denoted (cell : String) : ColumnValue → Prop
  | .integer n => ∃ q, Numeral.Denotes cell.toList q ∧ numbers.nearest q = some (n : ℚ)
  | .number x => ∃ q, Numeral.Denotes cell.toList q ∧ numbers.nearest q = some x
  | _ => True

/-- What is kept of a file satisfies the form and has the numbers that the cells denote, and a
row that is not kept and not blank has an error. -/
structure AcceptsOnlyForms (used : List (String × String)) (rows : List (List (String × String)))
    (parsed : ParsedUnits) : Prop where
  kept : ∀ i row, rows[i]? = some row → ∀ dto, (i + 2, dto) ∈ parsed.units → dto.Valid ∧
    ∀ column cell, readCell used row column.canonical = some cell →
      ∃ value, dto.columns column = .value value ∧ Denoted numbers cell value
  refused : ∀ i row, rows[i]? = some row → isBlank row = false →
    (∀ dto, (i + 2, dto) ∉ parsed.units) → ∃ e ∈ parsed.errors, e.row = i + 2

/-- A numeral from end to end, not negative, and of a whole number's column one whose fraction
and exponent leave the number in front of them as it is. -/
def FormNumeral (kind : ColumnKind) (cell : String) : Prop :=
  match kind with
  | .integer => ∃ p : Numeral.Parts, p.WellFormed ∧ p.text = cell.toList ∧ p.whole ≠ [] ∧
      numbers.nearest p.value = numbers.nearest p.leading ∧
        ∀ q, numbers.nearest p.value = some q → 0 ≤ q
  | .number => ∃ p : Numeral.Parts, p.WellFormed ∧ p.text = cell.toList ∧
      ∀ q, numbers.nearest p.value = some q → 0 ≤ q
  | _ => True

end Forms

section Cells

variable {numbers : Numbers} {toLowerCase toUpperCase : String → String} {cell : String}
  {p : Numeral.Parts} {column : UnitColumn} {value : ColumnValue}

theorem not_space_of_isDigit {c : Char} (h : c.isDigit = true) : isSpace c = false := by
  have hdigit : 48 ≤ c.toNat ∧ c.toNat ≤ 57 := by
    rw [Char.isDigit, Bool.and_eq_true, decide_eq_true_eq, decide_eq_true_eq] at h
    exact h
  rw [isSpace, Bool.or_eq_false_iff]
  constructor
  · rw [Bool.eq_false_iff]
    simp only [List.contains_iff_mem, List.mem_cons, List.not_mem_nil, or_false, ne_eq]
    omega
  · simp only [Bool.and_eq_false_iff, decide_eq_false_iff_not]
    omega

theorem trimStart_of_text (hp : p.WellFormed) (htext : p.text = cell.toList) :
    trimStart cell = p.text := by
  obtain ⟨c, t, hhead, hc⟩ := Numeral.text_head hp
  have hspace : isSpace c = false := by
    obtain rfl | rfl | rfl | hdigit := hc
    · decide
    · decide
    · decide
    · exact not_space_of_isDigit hdigit
  rw [trimStart, ← htext, hhead, List.dropWhile_cons_of_neg (by simp [hspace])]

theorem parseInt_of_text (hp : p.WellFormed) (htext : p.text = cell.toList) (hwhole : p.whole ≠ []) :
    numbers.parseInt cell = (numbers.nearest p.leading).map (·.num) := by
  rw [Numbers.parseInt, trimStart_of_text hp htext, Numeral.scanInteger_text hp, if_neg hwhole]
  rfl

theorem parseInt_of_no_whole (hp : p.WellFormed) (htext : p.text = cell.toList)
    (hwhole : p.whole = []) : numbers.parseInt cell = none := by
  rw [Numbers.parseInt, trimStart_of_text hp htext, Numeral.scanInteger_text hp, if_pos hwhole]
  rfl

theorem parseFloat_of_text (hp : p.WellFormed) (htext : p.text = cell.toList) :
    numbers.parseFloat cell = numbers.nearest p.value := by
  rw [Numbers.parseFloat, trimStart_of_text hp htext, Numeral.scan_text hp]
  rfl

theorem nearest_num {n : ℤ} {q : ℚ} (h : numbers.nearest n = some q) : (q.num : ℚ) = q :=
  Rat.den_eq_one_iff q |>.mp (numbers.nearest_whole n q h)

theorem parseCell_ok_iff : parseCell (platformOf numbers toLowerCase toUpperCase) column cell =
    .ok value ↔
      match column.kind with
      | .text => value = .text cell
      | .integer => ∃ n, numbers.parseInt cell = some n ∧ value = .integer n
      | .number => ∃ q, numbers.parseFloat cell = some q ∧ value = .number q
      | .boolean => ∃ b, parseBool (platformOf numbers toLowerCase toUpperCase) cell = some b ∧
          value = .boolean b
      | .enum allowed =>
        normalizeEnum (platformOf numbers toLowerCase toUpperCase) cell ∈ allowed ∧
          value = .enum (normalizeEnum (platformOf numbers toLowerCase toUpperCase) cell) := by
  rw [parseCell]
  cases column.kind with
  | text => simp only [Except.ok.injEq, eq_comm]
  | integer =>
    simp only [Outcome.orThrow_eq_ok, Option.map_eq_some_iff]
    exact exists_congr fun n => and_congr_right fun _ => eq_comm
  | number =>
    simp only [Outcome.orThrow_eq_ok, Option.map_eq_some_iff]
    exact exists_congr fun n => and_congr_right fun _ => eq_comm
  | boolean =>
    simp only [Outcome.orThrow_eq_ok, Option.map_eq_some_iff]
    exact exists_congr fun n => and_congr_right fun _ => eq_comm
  | enum allowed =>
    simp only [List.contains_iff_mem]
    split_ifs with hallowed
    · simp only [Except.ok.injEq, hallowed, true_and, eq_comm]
    · simp [hallowed]

/-- A cell that is read has a value that the form admits and that the cell denotes exactly when
it is a numeral as the form has them. -/
theorem admits_and_denoted_iff
    (h : parseCell (platformOf numbers toLowerCase toUpperCase) column cell = .ok value) :
    column.kind.Admits value ∧ Denoted numbers cell value ↔
      FormNumeral numbers column.kind cell := by
  rw [parseCell_ok_iff] at h
  cases hkind : column.kind with
  | text =>
    rw [hkind] at h
    obtain rfl := h
    exact iff_of_true ⟨trivial, trivial⟩ trivial
  | boolean =>
    rw [hkind] at h
    obtain ⟨b, -, rfl⟩ := h
    exact iff_of_true ⟨trivial, trivial⟩ trivial
  | enum allowed =>
    rw [hkind] at h
    obtain ⟨hallowed, rfl⟩ := h
    exact iff_of_true ⟨hallowed, trivial⟩ trivial
  | integer =>
    rw [hkind] at h
    obtain ⟨n, hn, rfl⟩ := h
    constructor
    · rintro ⟨hsign, q, ⟨p, hp, htext, rfl⟩, hq⟩
      have hwhole : p.whole ≠ [] := fun hnil => by
        rw [parseInt_of_no_whole hp htext hnil] at hn
        cases hn
      rw [parseInt_of_text hp htext hwhole] at hn
      obtain ⟨q, hleading, rfl⟩ := Option.map_eq_some_iff.mp hn
      rw [nearest_num hleading] at hq
      refine ⟨p, hp, htext, hwhole, hq.trans hleading.symm, fun q' hq' => ?_⟩
      obtain rfl := Option.some.inj (hq.symm.trans hq')
      exact Rat.num_nonneg.mp hsign
    · rintro ⟨p, hp, htext, hwhole, hsame, hsign⟩
      rw [parseInt_of_text hp htext hwhole] at hn
      obtain ⟨q, hleading, rfl⟩ := Option.map_eq_some_iff.mp hn
      have hvalue := hsame.trans hleading
      refine ⟨Rat.num_nonneg.mpr (hsign q hvalue), p.value, ⟨p, hp, htext, rfl⟩, ?_⟩
      rw [nearest_num hleading]
      exact hvalue
  | number =>
    rw [hkind] at h
    obtain ⟨x, hx, rfl⟩ := h
    constructor
    · rintro ⟨hsign, q, ⟨p, hp, htext, rfl⟩, hq⟩
      exact ⟨p, hp, htext, fun q' hq' => Option.some.inj (hq.symm.trans hq') ▸ hsign⟩
    · rintro ⟨p, hp, htext, hsign⟩
      rw [parseFloat_of_text hp htext] at hx
      exact ⟨hsign x hx, p.value, ⟨p, hp, htext, rfl⟩, hx⟩

end Cells

section Kept

variable {platform : Platform} {unitTypes : List UnitType} {used row : List (String × String)}
  {label : String}

theorem columnOfRow_eq_value_iff {column : UnitColumn} {value : ColumnValue} :
    columnOfRow platform used row column = .value value ↔
      ∃ cell, readCell used row column.canonical = some cell ∧
        parseCell platform column cell = .ok value := by
  rw [columnOfRow]
  cases readCell used row column.canonical with
  | none => exact iff_of_false (fun h => by cases h) fun ⟨_, h, _⟩ => by cases h
  | some cell =>
    cases hparse : parseCell platform column cell with
    | ok value' =>
      simp only [hparse, Field.value.injEq, Option.some.injEq, exists_eq_left', Except.ok.injEq]
    | error message =>
      simp only [hparse, Option.some.injEq, exists_eq_left', reduceCtorEq]

theorem findUnitType_mem {name : String} {id : Id}
    (h : findUnitType platform unitTypes name = some id) :
    id ≠ "" ∧ ∃ t ∈ unitTypes, t.id = id := by
  obtain ⟨hfound, hne⟩ := truthy_eq_some.mp h
  obtain ⟨t, hfind, rfl⟩ := Option.map_eq_some_iff.mp hfound
  exact ⟨hne, t, List.mem_reverse.mp (List.mem_of_find?_eq_some hfind), rfl⟩

theorem unitTypeId_mem {id : Id}
    (h : (createUnitDtoOfRow platform unitTypes used row label).unitTypeId = .value id) :
    id ≠ "" ∧ ∃ t ∈ unitTypes, t.id = id := by
  rw [createUnitDtoOfRow] at h
  dsimp only at h
  split at h
  · next id' hid =>
    cases h
    obtain ⟨name, -, hname⟩ := Option.bind_eq_some_iff.mp hid
    exact findUnitType_mem hname
  · cases h

end Kept

section Results

variable (platform : Platform) (db : Db) (orgId : Id) (parsed : ParsedCsv)

def activeUnitTypes : List UnitType := db.unitTypes.rows.filter fun t => t.orgId = orgId ∧ t.isActive

/-- The headers of the file that are in use. -/
def ParsedCsv.used : List (String × String) := (readHeaders platform parsed.headers).1

def ParsedCsv.parsedUnits : ParsedUnits :=
  parseRows platform (activeUnitTypes db orgId) (parsed.used platform) parsed.rows

/-- The row at the index is kept, under its label. -/
def ParsedCsv.Keeps (i : ℕ) (row : List (String × String)) (label : String) : Prop :=
  parsed.rows[i]? = some row ∧ Accepted platform (activeUnitTypes db orgId)
    (parsed.used platform) (labelsOf (parsed.used platform) (parsed.rows.take i)) row label

/-- An import keeps what the create form admits, and refuses the rest, exactly when the cells for
numbers of each row it keeps are numerals of the form. -/
theorem import_accepts_only_forms_iff (numbers : Numbers) (toLowerCase toUpperCase : String → String)
    {db : Db} (hids : ∀ t ∈ db.unitTypes, isUuid t.id = true) (orgId : Id) (parsed : ParsedCsv) :
    AcceptsOnlyForms numbers (parsed.used (platformOf numbers toLowerCase toUpperCase)) parsed.rows
        (parsed.parsedUnits (platformOf numbers toLowerCase toUpperCase) db orgId) ↔
      ∀ i row label,
        parsed.Keeps (platformOf numbers toLowerCase toUpperCase) db orgId i row label →
        ∀ column cell, readCell (parsed.used (platformOf numbers toLowerCase toUpperCase)) row
          (UnitColumn.canonical column) = some cell → FormNumeral numbers column.kind cell := by
  constructor
  · intro h i row label ⟨hrow, haccepted⟩ column cell hcell
    have hmem := mem_parseRows_units.mpr ⟨i, row, hrow, label, haccepted, rfl⟩
    obtain ⟨hvalid, hdenoted⟩ := h.kept i row hrow _ hmem
    obtain ⟨value, hvalue, hdenotes⟩ := hdenoted column cell hcell
    have hadmits := hvalid.columns column value hvalue
    obtain ⟨cell', hcell', hparse⟩ := columnOfRow_eq_value_iff.mp hvalue
    obtain rfl := Option.some.inj (hcell.symm.trans hcell')
    exact (admits_and_denoted_iff hparse).mp ⟨hadmits, hdenotes⟩
  · intro h
    refine ⟨fun i row hrow dto hdto => ?_, fun i row hrow hblank hkept => ?_⟩
    · obtain ⟨i', row', hrow', label, haccepted, hentry⟩ := mem_parseRows_units.mp hdto
      obtain ⟨hindex, rfl⟩ := Prod.mk.inj hentry
      obtain rfl : i = i' := by omega
      obtain rfl := Option.some.inj (hrow.symm.trans hrow')
      have hcells : ∀ column cell, readCell (parsed.used
          (platformOf numbers toLowerCase toUpperCase)) row (UnitColumn.canonical column) =
          some cell → ∀ value, parseCell (platformOf numbers toLowerCase toUpperCase) column cell =
            .ok value → column.kind.Admits value ∧ Denoted numbers cell value :=
        fun column cell hcell value hvalue =>
          (admits_and_denoted_iff hvalue).mpr (h i row label ⟨hrow, haccepted⟩ column cell hcell)
      refine ⟨⟨readCell_ne_empty haccepted.labelled, fun column value hvalue => ?_,
        fun id hid => ?_, fun ids hnone => by cases hnone⟩, fun column cell hcell => ?_⟩
      · obtain ⟨cell, hcell, hparse⟩ := columnOfRow_eq_value_iff.mp hvalue
        exact (hcells column cell hcell value hparse).1
      · obtain ⟨-, t, ht, rfl⟩ := unitTypeId_mem hid
        exact hids t (List.mem_filter.mp ht).1
      · have hfields := (rowErrors_eq_nil_iff.mp (haccepted.fields 0)).1
        obtain ⟨value, hvalue⟩ := hfields column cell hcell
        exact ⟨value, columnOfRow_eq_value_iff.mpr ⟨cell, hcell, hvalue⟩,
          (hcells column cell hcell value hvalue).2⟩
    · have hnone : ∀ label, ¬ Accepted (platformOf numbers toLowerCase toUpperCase)
          (activeUnitTypes db orgId) (parsed.used (platformOf numbers toLowerCase toUpperCase))
          (labelsOf (parsed.used (platformOf numbers toLowerCase toUpperCase))
            (parsed.rows.take i)) row label := fun label haccepted =>
        hkept _ (mem_parseRows_units.mpr ⟨i, row, hrow, label, haccepted, rfl⟩)
      have herrors := mt (errorsAfter_eq_nil_iff (i := i)).mp (not_or.mpr
        ⟨Bool.eq_false_iff.mp hblank, not_exists.mpr hnone⟩)
      obtain ⟨e, he⟩ := List.exists_mem_of_ne_nil _ herrors
      exact ⟨e, mem_parseRows_errors.mpr ⟨i, row, hrow, he⟩, row_of_mem_errorsAfter he⟩

end Results

section Thousands

/-- Numbers as far as they are exact. -/
def exactNumbers : Numbers where
  nearest := some
  nearest_whole := by
    rintro n _ ⟨⟩
    rfl

def lowerAscii (s : String) : String := .ofList (s.toList.map Char.toLower)

def upperAscii (s : String) : String := .ofList (s.toList.map Char.toUpper)

def asciiPlatform : Platform := platformOf exactNumbers lowerAscii upperAscii

theorem unitCheck_empty : unitCheck (.empty _) = none := by decide

theorem ownershipCheck_empty : ownershipCheck (.empty _) = none := by decide

def furnishedTower : Db where
  buildings := ⟨[⟨"tower", "org", "Tower", "Dubai"⟩], List.nodup_singleton _⟩
  owners := .empty _
  unitTypes := ⟨[⟨"0b5d3a52-6c0e-4f5e-8a59-6f1c9c0b7d11", "org", "Apartment", true⟩],
    List.nodup_singleton _⟩
  buildingAmenities := .empty _
  units := ⟨.empty _, unitCheck_empty⟩
  unitAmenities := .empty _
  unitOwnerships := ⟨.empty _, ownershipCheck_empty⟩

/-- A rent with a comma at the thousands. -/
def thousands : ParsedCsv := parseCsv "label,rentAnnual\nA-101,\"1,200\""

def rentRow : List (String × String) := [("label", "A-101"), ("rentAnnual", "1,200")]

theorem rows_thousands : thousands.rows = [rentRow] := by decide +kernel

theorem used_thousands : thousands.used asciiPlatform =
    [("label", "label"), ("rentannual", "rentAnnual")] := by decide +kernel

theorem accepted_rentRow : Accepted asciiPlatform (activeUnitTypes furnishedTower "org")
    (thousands.used asciiPlatform) [] rentRow "A-101" where
  unseen := List.not_mem_nil
  labelled := by
    rw [used_thousands]
    decide +kernel
  fields n := by
    rw [used_thousands]
    have hzero : rowErrors asciiPlatform (activeUnitTypes furnishedTower "org")
        [("label", "label"), ("rentannual", "rentAnnual")] rentRow 0 = [] := by decide +kernel
    exact rowErrors_eq_nil_iff.mpr (rowErrors_eq_nil_iff.mp hzero)

theorem thousands_accepted_iff :
    AcceptsOnlyForms exactNumbers (thousands.used asciiPlatform) thousands.rows
        (thousands.parsedUnits asciiPlatform furnishedTower "org") ↔
      ∀ i row label, thousands.Keeps asciiPlatform furnishedTower "org" i row label →
        ∀ column cell, readCell (thousands.used asciiPlatform) row
          (UnitColumn.canonical column) = some cell → FormNumeral exactNumbers column.kind cell :=
  import_accepts_only_forms_iff exactNumbers lowerAscii upperAscii (by decide) "org" thousands

/-- The rent is kept as 1, which the cell does not denote. -/
theorem thousands_not_accepted :
    ¬ AcceptsOnlyForms exactNumbers (thousands.used asciiPlatform) thousands.rows
      (thousands.parsedUnits asciiPlatform furnishedTower "org") := by
  intro h
  have hrow : thousands.rows[0]? = some rentRow := by rw [rows_thousands]; rfl
  have hkept := mem_parseRows_units.mpr ⟨0, rentRow, hrow, "A-101", accepted_rentRow, rfl⟩
  have hcell : readCell (thousands.used asciiPlatform) rentRow
      (UnitColumn.canonical .rentAnnual) = some "1,200" := by
    rw [used_thousands]
    decide +kernel
  obtain ⟨value, hvalue, hdenoted⟩ := (h.kept 0 rentRow hrow _ hkept).2 .rentAnnual "1,200" hcell
  have hone : columnOfRow asciiPlatform (thousands.used asciiPlatform) rentRow .rentAnnual =
      .value (.number 1) := by
    rw [used_thousands]
    decide +kernel
  obtain rfl := Field.value.inj (hvalue.symm.trans hone)
  obtain ⟨q, hq, -⟩ := hdenoted
  obtain ⟨p, hscan, -⟩ := Numeral.denotes_iff.mp hq
  have hrest : (Numeral.scan "1,200".toList).map (·.2) = some ",200".toList := by decide +kernel
  rw [hscan] at hrest
  cases hrest

end Thousands

end Towerdesk.Units
