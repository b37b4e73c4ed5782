import Towerdesk.Lib.JsonText
import Towerdesk.Units.Forms

/-!
# Reading an uploaded file

The text of a file is cut into lines, and a line into cells at the commas outside quotes. A
table written with every field quoted is read back as it was exactly when no field has a line
break, since lines are cut before quotes are looked at, and no column with rows under it is
called `__proto__`, since a record does not keep a field of that name.
-/

namespace Towerdesk.Units

open JsonText (quoteMark)

section Parsing

def stripUtf8Bom (value : List Char) : List Char :=
  match value with
  | [] => []
  | c :: cs => if c.toNat = 0xFEFF then cs else c :: cs

/-- `replace(/\r\n/g, '\n')`. -/
def replaceCrLf : List Char → List Char
  | '\r' :: '\n' :: cs => '\n' :: replaceCrLf cs
  | c :: cs => c :: replaceCrLf cs
  | [] => []

/-- `replace(/\r/g, '\n')`. -/
def replaceCr (text : List Char) : List Char := text.map fun c => if c = '\r' then '\n' else c

def normalized (input : List Char) : List Char := replaceCr (replaceCrLf (stripUtf8Bom input))

def trimEnd (line : List Char) : List Char := (line.reverse.dropWhile isSpace).reverse

/-- The loop of `splitCsvRow`: whether it is inside quotes, the cell so far and the rest. -/
def splitCells : Bool → List Char → List Char → List (List Char)
  | _, current, [] => [current]
  | false, current, c :: cs =>
    if c = ',' then current :: splitCells false [] cs
    else if c = quoteMark then splitCells true current cs
    else splitCells false (current ++ [c]) cs
  | true, current, [c] => if c = quoteMark then [current] else [current ++ [c]]
  | true, current, c :: next :: cs =>
    if c = quoteMark then
      if next = quoteMark then splitCells true (current ++ [quoteMark]) cs
      else splitCells false current (next :: cs)
    else splitCells true (current ++ [c]) (next :: cs)

def splitCsvRow (line : List Char) : List String :=
  (splitCells false [] line).map fun cell => .ofList (trim cell)

/-- `record[key] = value`: an object takes no string as its prototype. -/
def setField (record : List (String × String)) (key value : String) : List (String × String) :=
  if key = "__proto__" then record
  else if (record.lookup key).isSome then
    record.map fun field => if field.1 = key then (key, value) else field
  else record ++ [(key, value)]

def fillRecord (record : List (String × String)) :
    List String → List String → List (String × String)
  | [], _ => record
  | header :: headers, [] => fillRecord (setField record header "") headers []
  | header :: headers, value :: values => fillRecord (setField record header value) headers values

def csvLines (input : List Char) : List (List Char) :=
  (((normalized input).splitOn '\n').map trimEnd).filter (· ≠ [])

def parseCsv (input : String) : ParsedCsv :=
  match csvLines input.toList with
  | [] => ⟨[], []⟩
  | line :: lines =>
    let headers := (splitCsvRow line).map trimString
    ⟨headers, lines.map fun line => fillRecord [] headers (splitCsvRow line)⟩

end Parsing

section Writing

/-- The ends of lines that RFC 4180 and the parser know. -/
inductive LineEnd
  | CRLF | LF

def LineEnd.text : LineEnd → List Char
  | CRLF => ['\r', '\n']
  | LF => ['\n']

/-- A table, its headers and cells as the parser would trim them. -/
structure CsvTable where
  headers : List String
  rows : List (List String)
  headers_ne_nil : headers ≠ []
  headers_nodup : headers.Nodup
  headers_trimmed : ∀ header ∈ headers, trimString header = header ∧ header ≠ ""
  rows_length : ∀ row ∈ rows, row.length = headers.length
  cells_trimmed : ∀ row ∈ rows, ∀ cell ∈ row, trimString cell = cell

def doubleQuotes (text : List Char) : List Char :=
  text.flatMap fun c => if c = quoteMark then [quoteMark, quoteMark] else [c]

def writeField (field : String) : List Char :=
  quoteMark :: (doubleQuotes field.toList ++ [quoteMark])

def writeRow : List String → List Char
  | [] => []
  | [field] => writeField field
  | field :: next :: fields => writeField field ++ ',' :: writeRow (next :: fields)

/-- The lines with an end between them, and after the last one where `closed`. -/
def joinLines (lineEnd : LineEnd) (closed : Bool) : List (List Char) → List Char
  | [] => []
  | [line] => line ++ if closed then lineEnd.text else []
  | line :: next :: lines => line ++ (lineEnd.text ++ joinLines lineEnd closed (next :: lines))

def writeCsv (lineEnd : LineEnd) (closed : Bool) (t : CsvTable) : String :=
  .ofList (joinLines lineEnd closed ((t.headers :: t.rows).map writeRow))

/-- The headers, and one record per row with its cells. -/
def CsvTable.parsed (t : CsvTable) : ParsedCsv := ⟨t.headers, t.rows.map (t.headers.zip ·)⟩

def NoLineBreak (field : String) : Prop := ∀ c ∈ field.toList, c ≠ '\n' ∧ c ≠ '\r'

end Writing

section Scanner

variable {current cell rest line : List Char}

theorem doubleQuotes_cons (c : Char) (cs : List Char) : doubleQuotes (c :: cs) =
    (if c = quoteMark then [quoteMark, quoteMark] else [c]) ++ doubleQuotes cs :=
  List.flatMap_cons

theorem splitCells_plain {c : Char} (hc : c ≠ quoteMark) :
    splitCells true current (c :: rest) = splitCells true (current ++ [c]) rest := by
  cases rest with
  | nil => simp [splitCells, hc]
  | cons next rest => simp [splitCells, hc]

theorem splitCells_doubled :
    splitCells true current (quoteMark :: quoteMark :: rest) =
      splitCells true (current ++ [quoteMark]) rest := by
  simp [splitCells]

theorem splitCells_close (hrest : rest.head? ≠ some quoteMark) :
    splitCells true current (quoteMark :: rest) = splitCells false current rest := by
  cases rest with
  | nil => simp [splitCells]
  | cons next rest =>
    have hnext : next ≠ quoteMark := fun h => hrest (congrArg some h)
    simp [splitCells, hnext]

theorem splitCells_doubleQuotes (hrest : rest.head? ≠ some quoteMark) :
    splitCells true current (doubleQuotes cell ++ quoteMark :: rest) =
      splitCells false (current ++ cell) rest := by
  induction cell generalizing current with
  | nil => simpa [doubleQuotes] using splitCells_close hrest
  | cons c cs ih =>
    rw [doubleQuotes_cons]
    by_cases hc : c = quoteMark
    · subst hc
      rw [if_pos rfl]
      change splitCells true current (quoteMark :: quoteMark :: (doubleQuotes cs ++ _)) = _
      rw [splitCells_doubled, ih, List.append_assoc, List.singleton_append]
    · rw [if_neg hc]
      change splitCells true current (c :: (doubleQuotes cs ++ _)) = _
      rw [splitCells_plain hc, ih, List.append_assoc, List.singleton_append]

theorem splitCells_writeField {field : String} (hrest : rest.head? ≠ some quoteMark) :
    splitCells false [] (writeField field ++ rest) = splitCells false field.toList rest := by
  have hopen : splitCells false [] (writeField field ++ rest) =
      splitCells true [] (doubleQuotes field.toList ++ quoteMark :: rest) := by
    have hcomma : quoteMark ≠ ',' := by decide
    simp [writeField, splitCells, hcomma]
  rw [hopen, splitCells_doubleQuotes hrest, List.nil_append]

theorem splitCells_writeRow {fields : List String} (hne : fields ≠ []) :
    splitCells false [] (writeRow fields) = fields.map String.toList := by
  induction fields with
  | nil => exact absurd rfl hne
  | cons field fields ih =>
    cases fields with
    | nil =>
      have hlast : splitCells false [] (writeField field ++ []) = splitCells false field.toList [] :=
        splitCells_writeField (by simp)
      rw [List.append_nil] at hlast
      rw [writeRow, hlast]
      simp [splitCells]
    | cons next fields =>
      have hcomma : (',' :: writeRow (next :: fields)).head? ≠ some quoteMark :=
        fun h => absurd (Option.some.inj h) (by decide)
      rw [writeRow, splitCells_writeField hcomma, List.map_cons,
        ← ih (List.cons_ne_nil next fields)]
      simp [splitCells]

theorem splitCsvRow_writeRow {fields : List String} (hne : fields ≠ [])
    (htrimmed : ∀ field ∈ fields, trimString field = field) :
    splitCsvRow (writeRow fields) = fields := by
  rw [splitCsvRow, splitCells_writeRow hne, List.map_map]
  exact (List.map_congr_left htrimmed).trans (List.map_id' fields)

theorem mem_of_mem_splitCells {quoted : Bool} {c : Char} (hcell : cell ∈ splitCells quoted current line)
    (hc : c ∈ cell) : c ∈ current ∨ c ∈ line := by
  fun_induction splitCells quoted current line with
  | case1 quoted current =>
    obtain rfl := List.mem_singleton.mp hcell
    exact .inl hc
  | case2 current cs ih =>
    obtain rfl | hrest := List.mem_cons.mp hcell
    · exact .inl hc
    · exact .inr (List.mem_cons_of_mem _ ((ih hrest).resolve_left List.not_mem_nil))
  | case3 current cs _ ih => exact (ih hcell).imp_right (List.mem_cons_of_mem _)
  | case4 current d cs _ _ ih =>
    have hread := ih hcell
    simp only [List.mem_append, List.mem_cons, List.not_mem_nil, or_false, or_assoc] at hread ⊢
    exact hread
  | case5 current =>
    obtain rfl := List.mem_singleton.mp hcell
    exact .inl hc
  | case6 current d _ =>
    obtain rfl := List.mem_singleton.mp hcell
    exact List.mem_append.mp hc
  | case7 current cs ih =>
    have hread := ih hcell
    simp only [List.mem_append, List.mem_cons, List.not_mem_nil, or_false] at hread ⊢
    tauto
  | case8 current next cs _ ih => exact (ih hcell).imp_right (List.mem_cons_of_mem _)
  | case9 current d next cs _ ih =>
    have hread := ih hcell
    simp only [List.mem_append, List.mem_cons, List.not_mem_nil, or_false, or_assoc] at hread ⊢
    exact hread

end Scanner

section Lines

variable {row rest text : List Char} {rows : List (List Char)} {lineEnd : LineEnd} {closed : Bool}

theorem normalizeLine_append (hrow : '\r' ∉ row) :
    replaceCr (replaceCrLf (row ++ rest)) = row ++ replaceCr (replaceCrLf rest) := by
  induction row with
  | nil => rfl
  | cons c cs ih =>
    obtain ⟨hc, hcs⟩ := not_or.mp (List.mem_cons.not.mp hrow)
    have hkept : replaceCrLf (c :: (cs ++ rest)) = c :: replaceCrLf (cs ++ rest) := by
      rw [replaceCrLf]
      rintro cs' rfl
      exact absurd rfl hc
    have ih := ih hcs
    rw [replaceCr] at ih ⊢
    rw [List.cons_append, hkept, List.map_cons, ih, if_neg fun h => hc h.symm, replaceCr]
    rfl

theorem normalizeLine_text :
    replaceCr (replaceCrLf (lineEnd.text ++ rest)) = '\n' :: replaceCr (replaceCrLf rest) := by
  cases lineEnd with
  | CRLF => rfl
  | LF => rfl

theorem splitOn_joinLines (hne : rows ≠ []) (hrows : ∀ row ∈ rows, '\r' ∉ row ∧ '\n' ∉ row) :
    (replaceCr (replaceCrLf (joinLines lineEnd closed rows))).splitOn '\n' =
      rows ++ if closed then [[]] else [] := by
  induction rows with
  | nil => exact absurd rfl hne
  | cons row rows ih =>
    obtain ⟨⟨hcr, hlf⟩, hrest⟩ := List.forall_mem_cons.mp hrows
    cases rows with
    | nil =>
      rw [joinLines, normalizeLine_append hcr]
      cases closed with
      | true =>
        have hend : replaceCr (replaceCrLf lineEnd.text) = ['\n'] := by
          cases lineEnd with
          | CRLF => rfl
          | LF => rfl
        rw [if_pos rfl, if_pos rfl, hend, List.splitOn_append_cons_self_of_not_mem hlf]
        rfl
      | false =>
        have hnone : replaceCr (replaceCrLf []) = [] := rfl
        rw [if_neg Bool.false_ne_true, if_neg Bool.false_ne_true, hnone, List.append_nil,
          List.append_nil, List.splitOn_eq_singleton hlf]
    | cons next rows =>
      rw [joinLines, normalizeLine_append hcr, normalizeLine_text,
        List.splitOn_append_cons_self_of_not_mem hlf, ih (List.cons_ne_nil next rows) hrest]
      rfl

end Lines

section Rows

variable {fields : List String} {c : Char}

theorem mem_doubleQuotes {text : List Char} : c ∈ doubleQuotes text ↔ c ∈ text := by
  rw [doubleQuotes, List.mem_flatMap]
  constructor
  · rintro ⟨d, hd, hc⟩
    split_ifs at hc with hquote
    · simp only [List.mem_cons, List.not_mem_nil, or_false, or_self] at hc
      rwa [hc, ← hquote]
    · rwa [List.mem_singleton.mp hc]
  · intro hc
    refine ⟨c, hc, ?_⟩
    split_ifs with hquote
    · simp [hquote]
    · exact List.mem_singleton_self c

theorem mem_writeRow (h : c ∈ writeRow fields) :
    c = quoteMark ∨ c = ',' ∨ ∃ field ∈ fields, c ∈ field.toList := by
  have hfield : ∀ field, c ∈ writeField field → c = quoteMark ∨ c ∈ field.toList := by
    intro field hc
    simp only [writeField, List.mem_cons, List.mem_append, mem_doubleQuotes, List.not_mem_nil,
      or_false] at hc
    tauto
  fun_induction writeRow fields with
  | case1 => exact absurd h List.not_mem_nil
  | case2 field =>
    obtain hquote | hc := hfield field h
    · exact .inl hquote
    · exact .inr (.inr ⟨field, List.mem_singleton_self field, hc⟩)
  | case3 field next fields ih =>
    rcases List.mem_append.mp h with h | h
    · obtain hquote | hc := hfield field h
      · exact .inl hquote
      · exact .inr (.inr ⟨field, List.mem_cons_self, hc⟩)
    · rcases List.mem_cons.mp h with hcomma | h
      · exact .inr (.inl hcomma)
      · obtain hquote | hcomma | ⟨other, hother, hc⟩ := ih h
        · exact .inl hquote
        · exact .inr (.inl hcomma)
        · exact .inr (.inr ⟨other, List.mem_cons_of_mem field hother, hc⟩)

theorem not_mem_writeRow (hfields : ∀ field ∈ fields, NoLineBreak field) :
    '\r' ∉ writeRow fields ∧ '\n' ∉ writeRow fields := by
  constructor
  · intro h
    obtain hquote | hcomma | ⟨field, hfield, hc⟩ := mem_writeRow h
    · exact absurd hquote (by decide)
    · exact absurd hcomma (by decide)
    · exact (hfields field hfield _ hc).2 rfl
  · intro h
    obtain hquote | hcomma | ⟨field, hfield, hc⟩ := mem_writeRow h
    · exact absurd hquote (by decide)
    · exact absurd hcomma (by decide)
    · exact (hfields field hfield _ hc).1 rfl

theorem writeRow_quotes (hne : fields ≠ []) :
    (∃ rest, writeRow fields = quoteMark :: rest) ∧
      ∃ init, writeRow fields = init ++ [quoteMark] := by
  fun_induction writeRow fields with
  | case1 => exact absurd rfl hne
  | case2 field => exact ⟨⟨_, rfl⟩, ⟨quoteMark :: doubleQuotes field.toList, rfl⟩⟩
  | case3 field next fields ih =>
    obtain ⟨-, init, hinit⟩ := ih (List.cons_ne_nil next fields)
    refine ⟨⟨_, rfl⟩, ⟨writeField field ++ ',' :: init, ?_⟩⟩
    rw [hinit, List.append_assoc]
    rfl

theorem trimEnd_writeRow (hne : fields ≠ []) : trimEnd (writeRow fields) = writeRow fields := by
  obtain ⟨-, init, hinit⟩ := writeRow_quotes hne
  have hquote : ¬ isSpace quoteMark = true := by decide
  rw [hinit, trimEnd, List.reverse_append, List.reverse_singleton, List.singleton_append,
    List.dropWhile_cons_of_neg hquote, List.reverse_cons, List.reverse_reverse]

theorem writeRow_ne_nil (hne : fields ≠ []) : writeRow fields ≠ [] := by
  obtain ⟨⟨rest, hrest⟩, -⟩ := writeRow_quotes hne
  rw [hrest]
  exact List.cons_ne_nil _ _

end Rows

section Records

variable {record : List (String × String)} {key value : String}

theorem setField_new (hkey : key ≠ "__proto__") (hnew : ∀ v, (key, v) ∉ record) :
    setField record key value = record ++ [(key, value)] := by
  have hlookup : record.lookup key = none := by
    rw [List.lookup_eq_none_iff]
    rintro ⟨k, v⟩ hmem
    rw [bne_iff_ne]
    rintro rfl
    exact hnew v hmem
  rw [setField, if_neg hkey, hlookup]
  rfl

theorem fillRecord_new {headers values : List String} (hlength : values.length = headers.length)
    (hnodup : headers.Nodup) (hproto : "__proto__" ∉ headers)
    (hnew : ∀ header ∈ headers, ∀ v, (header, v) ∉ record) :
    fillRecord record headers values = record ++ headers.zip values := by
  induction headers generalizing record values with
  | nil => simp [fillRecord]
  | cons header headers ih =>
    obtain ⟨value, values, rfl⟩ := List.exists_cons_of_length_eq_add_one hlength
    obtain ⟨hhead, hnodup⟩ := List.nodup_cons.mp hnodup
    obtain ⟨hne, hproto⟩ := not_or.mp (List.mem_cons.not.mp hproto)
    obtain ⟨hfresh, hnew⟩ := List.forall_mem_cons.mp hnew
    have hlater : ∀ h ∈ headers, ∀ v, (h, v) ∉ record ++ [(header, value)] := by
      intro h hh v hmem
      rcases List.mem_append.mp hmem with hmem | hmem
      · exact hnew h hh v hmem
      · obtain ⟨rfl, -⟩ := Prod.mk.inj (List.mem_singleton.mp hmem)
        exact hhead hh
    rw [fillRecord, setField_new (Ne.symm hne) hfresh,
      ih (Nat.succ.inj hlength) hnodup hproto hlater, List.append_assoc]
    rfl

theorem mem_setField {field : String × String} (h : field ∈ setField record key value) :
    field ∈ record ∨ (field.1 ≠ "__proto__" ∧ field.2 = value) := by
  unfold setField at h
  split_ifs at h with hproto hlookup
  · exact .inl h
  · obtain ⟨old, hold, rfl⟩ := List.mem_map.mp h
    split_ifs
    · exact .inr ⟨hproto, rfl⟩
    · exact .inl hold
  · rcases List.mem_append.mp h with h | h
    · exact .inl h
    · obtain rfl := List.mem_singleton.mp h
      exact .inr ⟨hproto, rfl⟩

theorem mem_fillRecord {headers values : List String} {field : String × String}
    (h : field ∈ fillRecord record headers values) :
    field ∈ record ∨ (field.1 ≠ "__proto__" ∧ (field.2 ∈ values ∨ field.2 = "")) := by
  induction headers generalizing record values with
  | nil => exact .inl h
  | cons header headers ih =>
    cases values with
    | nil =>
      obtain hset | hlater := ih h
      · exact (mem_setField hset).imp_right fun hfield => ⟨hfield.1, .inr hfield.2⟩
      · exact .inr hlater
    | cons value values =>
      obtain hset | ⟨hproto, hvalue⟩ := ih h
      · refine (mem_setField hset).imp_right fun hfield => ⟨hfield.1, .inl ?_⟩
        rw [hfield.2]
        exact List.mem_cons_self
      · exact .inr ⟨hproto, hvalue.imp_left (List.mem_cons_of_mem value)⟩

end Records

section Claims

def CsvTable.NoLineBreaks (t : CsvTable) : Prop :=
  ∀ fields ∈ t.headers :: t.rows, ∀ field ∈ fields, NoLineBreak field

/-- What a written table needs to be read back. -/
def CsvTable.Readable (t : CsvTable) : Prop :=
  t.NoLineBreaks ∧ (t.rows = [] ∨ "__proto__" ∉ t.headers)

variable {lineEnd : LineEnd} {closed : Bool} {t : CsvTable}

theorem CsvTable.fields_ne_nil {fields : List String} (h : fields ∈ t.headers :: t.rows) :
    fields ≠ [] := by
  rcases List.mem_cons.mp h with rfl | hrow
  · exact t.headers_ne_nil
  · rintro rfl
    exact t.headers_ne_nil (List.length_eq_zero_iff.mp (t.rows_length [] hrow).symm)

theorem csvLines_writeCsv (hbreaks : t.NoLineBreaks) :
    csvLines (writeCsv lineEnd closed t).toList = (t.headers :: t.rows).map writeRow := by
  have hbom : stripUtf8Bom (writeCsv lineEnd closed t).toList =
      joinLines lineEnd closed ((t.headers :: t.rows).map writeRow) := by
    obtain ⟨⟨rest, hrest⟩, -⟩ := writeRow_quotes t.headers_ne_nil
    rw [writeCsv, String.toList_ofList, List.map_cons, hrest]
    cases t.rows.map writeRow with
    | nil => rfl
    | cons line lines => rfl
  have hrows : ∀ row ∈ (t.headers :: t.rows).map writeRow, '\r' ∉ row ∧ '\n' ∉ row := by
    refine List.forall_mem_map.mpr fun fields hfields => ?_
    exact not_mem_writeRow (hbreaks fields hfields)
  have htrim : ((t.headers :: t.rows).map writeRow).map trimEnd =
      (t.headers :: t.rows).map writeRow := by
    rw [List.map_map]
    exact List.map_congr_left fun fields hfields => trimEnd_writeRow (t.fields_ne_nil hfields)
  have hkept : ((t.headers :: t.rows).map writeRow).filter (· ≠ []) =
      (t.headers :: t.rows).map writeRow := by
    refine List.filter_eq_self.mpr (List.forall_mem_map.mpr fun fields hfields => ?_)
    simpa using writeRow_ne_nil (t.fields_ne_nil hfields)
  rw [csvLines, normalized, hbom, splitOn_joinLines (by simp) hrows, List.map_append, htrim,
    List.filter_append, hkept]
  cases closed with
  | true => simp [trimEnd]
  | false => simp

theorem parseCsv_of_readable (h : t.Readable) : parseCsv (writeCsv lineEnd closed t) = t.parsed := by
  obtain ⟨hbreaks, hproto⟩ := h
  have htrimmed : ∀ header ∈ t.headers, trimString header = header :=
    fun header hheader => (t.headers_trimmed header hheader).1
  have hheaders : (splitCsvRow (writeRow t.headers)).map trimString = t.headers := by
    rw [splitCsvRow_writeRow t.headers_ne_nil htrimmed]
    exact (List.map_congr_left htrimmed).trans (List.map_id' _)
  have hrecord : ∀ row ∈ t.rows,
      fillRecord [] t.headers (splitCsvRow (writeRow row)) = t.headers.zip row := by
    intro row hrow
    have hfree : "__proto__" ∉ t.headers := hproto.resolve_left (List.ne_nil_of_mem hrow)
    rw [splitCsvRow_writeRow (t.fields_ne_nil (List.mem_cons_of_mem _ hrow))
      (t.cells_trimmed row hrow), fillRecord_new (t.rows_length row hrow) t.headers_nodup hfree
        fun _ _ _ => List.not_mem_nil, List.nil_append]
  rw [parseCsv, csvLines_writeCsv hbreaks, List.map_cons]
  simp only [hheaders, List.map_map, CsvTable.parsed, ParsedCsv.mk.injEq, true_and]
  exact List.map_congr_left hrecord

section Output

variable {input : String} {line : List Char} {c : Char}

theorem mem_of_mem_splitOn {text piece : List Char} {a : Char} (hpiece : piece ∈ text.splitOn a)
    (hc : c ∈ piece) : c ∈ text ∧ c ≠ a := by
  induction text generalizing piece with
  | nil =>
    obtain rfl := List.mem_singleton.mp hpiece
    exact absurd hc List.not_mem_nil
  | cons d text ih =>
    rw [List.splitOn_cons_eq_if_modifyHead] at hpiece
    have hlater : ∀ {piece}, piece ∈ text.splitOn a → c ∈ piece → c ∈ d :: text ∧ c ≠ a :=
      fun hpiece hc => (ih hpiece hc).imp_left (List.mem_cons_of_mem d)
    split_ifs at hpiece with hd
    · rcases List.mem_cons.mp hpiece with rfl | hpiece
      · exact absurd hc List.not_mem_nil
      · exact hlater hpiece hc
    · obtain ⟨first, pieces, hsplit⟩ := List.exists_cons_of_ne_nil (List.splitOn_ne_nil a text)
      rw [hsplit, List.modifyHead_cons] at hpiece
      rw [hsplit] at hlater
      rcases List.mem_cons.mp hpiece with rfl | hpiece
      · rcases List.mem_cons.mp hc with rfl | hc
        · exact ⟨List.mem_cons_self, fun h => hd (beq_iff_eq.mpr h)⟩
        · exact hlater List.mem_cons_self hc
      · exact hlater (List.mem_cons_of_mem first hpiece) hc

theorem mem_trim {text : List Char} (h : c ∈ trim text) : c ∈ text := by
  have hdrop : ∀ {l : List Char}, c ∈ l.dropWhile isSpace → c ∈ l :=
    fun hmem => (List.dropWhile_sublist isSpace).mem hmem
  rw [trim, List.mem_reverse] at h
  exact hdrop (List.mem_reverse.mp (hdrop h))

theorem line_noBreak (hline : line ∈ csvLines input.toList) (hc : c ∈ line) :
    c ≠ '\n' ∧ c ≠ '\r' := by
  obtain ⟨piece, hpiece, rfl⟩ := List.mem_map.mp (List.mem_filter.mp hline).1
  rw [trimEnd, List.mem_reverse] at hc
  have hmem : c ∈ piece :=
    List.mem_reverse.mp ((List.dropWhile_sublist isSpace).mem hc)
  obtain ⟨htext, hlf⟩ := mem_of_mem_splitOn hpiece hmem
  refine ⟨hlf, ?_⟩
  obtain ⟨d, -, rfl⟩ := List.mem_map.mp htext
  split_ifs with hcr
  · decide
  · exact hcr

theorem cell_noBreak (hline : line ∈ csvLines input.toList) {cell : String}
    (hcell : cell ∈ splitCsvRow line) : NoLineBreak cell := by
  obtain ⟨chars, hchars, rfl⟩ := List.mem_map.mp hcell
  intro c hc
  rw [String.toList_ofList] at hc
  have hmem := mem_of_mem_splitCells hchars (mem_trim hc)
  exact line_noBreak hline (hmem.resolve_left List.not_mem_nil)

/-- No header and no value that is read has a line break, and no field is the prototype. -/
theorem parseCsv_output : (∀ header ∈ (parseCsv input).headers, NoLineBreak header) ∧
    ∀ record ∈ (parseCsv input).rows, ∀ field ∈ record,
      field.1 ≠ "__proto__" ∧ NoLineBreak field.2 := by
  unfold parseCsv
  cases hlines : csvLines input.toList with
  | nil => exact ⟨fun _ h => absurd h List.not_mem_nil, fun _ h => absurd h List.not_mem_nil⟩
  | cons line lines =>
    have hmem : ∀ {l}, l ∈ line :: lines → l ∈ csvLines input.toList := fun h => hlines ▸ h
    constructor
    · intro header hheader
      obtain ⟨cell, hcell, rfl⟩ := List.mem_map.mp hheader
      intro c hc
      rw [trimString, String.toList_ofList] at hc
      exact cell_noBreak (hmem List.mem_cons_self) hcell c (mem_trim hc)
    · intro record hrecord field hfield
      obtain ⟨row, hrow, rfl⟩ := List.mem_map.mp hrecord
      obtain ⟨hproto, hvalue⟩ := (mem_fillRecord hfield).resolve_left List.not_mem_nil
      refine ⟨hproto, ?_⟩
      rcases hvalue with hvalue | hvalue
      · exact cell_noBreak (hmem (List.mem_cons_of_mem line hrow)) hvalue
      · rw [hvalue]
        exact fun c hc => absurd hc List.not_mem_nil

end Output

theorem csv_roundtrip_iff (lineEnd : LineEnd) (closed : Bool) (t : CsvTable) :
    parseCsv (writeCsv lineEnd closed t) = t.parsed ↔ t.Readable := by
  refine ⟨fun h => ?_, parseCsv_of_readable⟩
  obtain ⟨hheaders, hrecords⟩ := @parseCsv_output (writeCsv lineEnd closed t)
  rw [h] at hheaders hrecords
  have hrows : ∀ row ∈ t.rows, ∀ field ∈ t.headers.zip row,
      field.1 ≠ "__proto__" ∧ NoLineBreak field.2 :=
    fun row hrow => hrecords _ (List.mem_map_of_mem hrow)
  refine ⟨fun fields hfields field hfield => ?_, ?_⟩
  · rcases List.mem_cons.mp hfields with rfl | hrow
    · exact hheaders field hfield
    · have hlength := t.rows_length fields hrow
      rw [← List.map_snd_zip hlength.le] at hfield
      obtain ⟨pair, hpair, rfl⟩ := List.mem_map.mp hfield
      exact (hrows fields hrow pair hpair).2
  · by_contra hnot
    obtain ⟨hne, hproto⟩ := not_or.mp hnot
    obtain ⟨row, hrow⟩ := List.exists_mem_of_ne_nil _ hne
    rw [not_not, ← List.map_fst_zip (t.rows_length row hrow).ge] at hproto
    obtain ⟨pair, hpair, hname⟩ := List.mem_map.mp hproto
    exact (hrows row hrow pair hpair).1 hname

/-- A column of notes, one of them on two lines. -/
def twoLineNotes : CsvTable where
  headers := ["notes"]
  rows := [["first\nsecond"]]
  headers_ne_nil := by decide
  headers_nodup := by decide
  headers_trimmed := by decide
  rows_length := by decide
  cells_trimmed := by decide

theorem csv_line_break_splits_row : ¬ ∀ (lineEnd : LineEnd) (closed : Bool) (t : CsvTable),
    parseCsv (writeCsv lineEnd closed t) = t.parsed := by
  intro h
  have hheaders := (@parseCsv_output (writeCsv .LF false twoLineNotes)).2
  rw [h .LF false twoLineNotes] at hheaders
  have hbreak := (hheaders [("notes", "first\nsecond")] List.mem_cons_self _ List.mem_cons_self).2
  exact absurd rfl (hbreak '\n' (by decide)).1

end Claims

end Towerdesk.Units
