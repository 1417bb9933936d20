import DeviceCatalog.CommandLine.Run

/-!
# Reading files of rows

A file of comma separated values is read character by character. A field ends at a comma and a
record at a line feed, unless they stand within quotes, where two quotes are one. The reader is
strict: it refuses quotes in a field that does not begin with one, anything but an end behind
closing quotes, and a last record that is not ended. What is written of values is read as these
values, so that no comma, quote or line feed in them moves a column or a row.
-/

namespace DeviceCatalog

namespace Text.Csv

/-! ### A reader -/

/-- Where in a field a reader stands. -/
inductive Place where
  | start
  | plain
  | quoted
  /-- Behind a quote within quotes. It closes them, unless another one follows. -/
  | closing
deriving DecidableEq

/-- What has been read: the records that have ended, the fields that have ended in the record after
them, and the characters of the field after these. -/
structure Reading where
  records : List (List String) := []
  fields : List String := []
  chars : List Char := []
  place : Place := .start
deriving DecidableEq

namespace Reading

def put (reading : Reading) (char : Char) (place : Place) : Reading :=
  { reading with chars := reading.chars ++ [char], place }

def endField (reading : Reading) : Reading :=
  { records := reading.records, fields := reading.fields ++ [String.ofList reading.chars] }

def endRecord (reading : Reading) : Reading :=
  { records := reading.records ++ [reading.endField.fields] }

/-- Reads one more character, unless it must not stand there. -/
def step? (reading : Reading) (char : Char) : Option Reading :=
  match reading.place, char with
  | .quoted, '"' => some { reading with place := .closing }
  | .quoted, char => some (reading.put char .quoted)
  | _, ',' => some reading.endField
  | _, '\n' => some reading.endRecord
  | .start, '"' => some { reading with place := .quoted }
  | .plain, '"' => none
  | .closing, '"' => some (reading.put '"' .quoted)
  | .closing, _ => none
  | _, char => some (reading.put char .plain)

def run? (reading : Reading) (text : List Char) : Option Reading := text.foldlM step? reading

end Reading

/-- The records of a text, each of which is ended by a line feed. -/
def read? (text : String) : Option (List (List String)) :=
  match Reading.run? {} text.toList with
  | some { records, fields := [], place := .start, .. } => some records
  | _ => none

/-! ### Steps and runs -/

section

variable {reading after : Reading} {records : List (List String)} {fields : List String}
  {chars : List Char} {place : Place} {char : Char}

theorem run?_cons (hstep : reading.step? char = some after) (rest : List Char) :
    reading.run? (char :: rest) = after.run? rest := by
  rw [Reading.run?, List.foldlM_cons, hstep]
  rfl

theorem run?_append {text : List Char} (hrun : reading.run? text = some after)
    (rest : List Char) : reading.run? (text ++ rest) = after.run? rest := by
  rw [Reading.run?] at hrun
  rw [Reading.run?, List.foldlM_append, hrun]
  rfl

theorem step?_quoted (hchar : char ≠ '"') :
    Reading.step? ⟨records, fields, chars, .quoted⟩ char =
      some ⟨records, fields, chars ++ [char], .quoted⟩ := by
  unfold Reading.step?
  split <;> simp_all [Reading.put]

theorem step?_ordinary (hchar : isSpecial char = false)
    (hplace : place = .start ∨ place = .plain) :
    Reading.step? ⟨records, fields, chars, place⟩ char =
      some ⟨records, fields, chars ++ [char], .plain⟩ := by
  unfold Reading.step?
  split <;> simp_all [Reading.put, isSpecial]

theorem step?_comma (hplace : place ≠ .quoted) :
    Reading.step? ⟨records, fields, chars, place⟩ ',' =
      some ⟨records, fields ++ [String.ofList chars], [], .start⟩ := by
  cases place with
  | quoted => exact absurd rfl hplace
  | start | plain | closing => rfl

theorem step?_lineFeed (hplace : place ≠ .quoted) :
    Reading.step? ⟨records, fields, chars, place⟩ '\n' =
      some ⟨records ++ [fields ++ [String.ofList chars]], [], [], .start⟩ := by
  cases place with
  | quoted => exact absurd rfl hplace
  | start | plain | closing => rfl

/-! ### Values -/

/-- Within quotes a character is read back, also where it is a quote itself. -/
theorem run?_doubled (char : Char) (rest : List Char) :
    Reading.run? ⟨records, fields, chars, .quoted⟩ (doubleQuotes [char] ++ rest) =
      Reading.run? ⟨records, fields, chars ++ [char], .quoted⟩ rest := by
  by_cases hquote : char = '"'
  · subst hquote
    exact (run?_cons rfl _).trans (run?_cons rfl _)
  · have hdoubled : doubleQuotes [char] = [char] := by
      simp [doubleQuotes, hquote]
    rw [hdoubled]
    exact run?_cons (step?_quoted hquote) rest

theorem run?_doubleQuotes (text : List Char) :
    Reading.run? ⟨records, fields, chars, .quoted⟩ (doubleQuotes text) =
      some ⟨records, fields, chars ++ text, .quoted⟩ := by
  induction text generalizing chars with
  | nil => rw [List.append_nil]; rfl
  | cons char rest ih =>
    have hsplit : doubleQuotes (char :: rest) = doubleQuotes [char] ++ doubleQuotes rest := by
      simp [doubleQuotes]
    rw [hsplit, run?_doubled, ih, List.append_assoc, List.singleton_append]

/-- Only where there is nothing to read does the reader stay at the start of a field. -/
theorem run?_ordinary (chars : List Char) {text : List Char} (htext : text.any isSpecial = false)
    (hplace : place = .start ∨ place = .plain) :
    ∃ last, (last = .start ∨ last = .plain) ∧
      Reading.run? ⟨records, fields, chars, place⟩ text =
        some ⟨records, fields, chars ++ text, last⟩ := by
  induction text generalizing chars place with
  | nil => exact ⟨place, hplace, by rw [List.append_nil]; rfl⟩
  | cons char rest ih =>
    rw [List.any_cons, Bool.or_eq_false_iff] at htext
    obtain ⟨last, hlast, hrest⟩ := ih (chars ++ [char]) htext.2 (Or.inr rfl)
    refine ⟨last, hlast, ?_⟩
    rw [run?_cons (step?_ordinary htext.1 hplace), hrest, List.append_assoc,
      List.singleton_append]

/-- Behind a written value the reader has its text, and does not stand within quotes. -/
theorem run?_value (records : List (List String)) (fields : List String) (text : String) :
    ∃ last ≠ Place.quoted,
      Reading.run? ⟨records, fields, [], .start⟩ (value text) =
        some ⟨records, fields, text.toList, last⟩ := by
  rw [value]
  by_cases hplain : isPlain text = true
  · rw [if_pos hplain]
    rw [isPlain, Bool.not_eq_true'] at hplain
    obtain ⟨last, hlast, hrun⟩ := run?_ordinary [] hplain (Or.inl rfl)
    refine ⟨last, ?_, hrun⟩
    rcases hlast with rfl | rfl <;> decide
  · have hopen : Reading.step? ⟨records, fields, [], .start⟩ '"' =
        some ⟨records, fields, [], .quoted⟩ := rfl
    rw [if_neg hplain]
    refine ⟨.closing, by decide, ?_⟩
    rw [List.cons_append, run?_cons hopen, run?_append (run?_doubleQuotes _)]
    rfl

theorem run?_value_comma (text : String) (rest : List Char) :
    Reading.run? ⟨records, fields, [], .start⟩ (value text ++ ',' :: rest) =
      Reading.run? ⟨records, fields ++ [text], [], .start⟩ rest := by
  obtain ⟨last, hlast, hvalue⟩ := run?_value records fields text
  rw [run?_append hvalue, run?_cons (step?_comma hlast), String.ofList_toList]

theorem run?_value_lineFeed (text : String) (rest : List Char) :
    Reading.run? ⟨records, fields, [], .start⟩ (value text ++ '\n' :: rest) =
      Reading.run? ⟨records ++ [fields ++ [text]], [], [], .start⟩ rest := by
  obtain ⟨last, hlast, hvalue⟩ := run?_value records fields text
  rw [run?_append hvalue, run?_cons (step?_lineFeed hlast), String.ofList_toList]

/-! ### Records -/

/-- The commas between values end fields, and the line feed behind them ends the record. -/
theorem run?_record {values : List String} (hvalues : values ≠ []) (rest : List Char) :
    Reading.run? ⟨records, fields, [], .start⟩ ((record values).toList ++ '\n' :: rest) =
      Reading.run? ⟨records ++ [fields ++ values], [], [], .start⟩ rest := by
  rw [record, String.toList_ofList]
  induction values generalizing fields with
  | nil => exact absurd rfl hvalues
  | cons text more ih =>
    cases more with
    | nil =>
      rw [List.map_singleton, List.intercalate_singleton]
      exact run?_value_lineFeed text rest
    | cons next more =>
      have hwritten : List.intercalate [','] ((text :: next :: more).map value) =
          value text ++ ',' :: List.intercalate [','] ((next :: more).map value) := by
        rw [List.map_cons, List.map_cons, List.intercalate_cons_cons, List.append_assoc,
          List.singleton_append]
      rw [hwritten, List.append_assoc, List.cons_append]
      calc
        Reading.run? ⟨records, fields, [], .start⟩ (value text ++
            ',' :: (List.intercalate [','] ((next :: more).map value) ++ '\n' :: rest)) =
          Reading.run? ⟨records, fields ++ [text], [], .start⟩
            (List.intercalate [','] ((next :: more).map value) ++ '\n' :: rest) :=
          run?_value_comma text _
        _ = Reading.run? ⟨records ++ [fields ++ [text] ++ next :: more], [], [], .start⟩ rest :=
          ih (List.cons_ne_nil _ _)
        _ = Reading.run? ⟨records ++ [fields ++ text :: next :: more], [], [], .start⟩ rest := by
          rw [List.append_assoc, List.singleton_append]

theorem run?_records {rows : List (List String)} (hrows : [] ∉ rows) :
    Reading.run? ⟨records, [], [], .start⟩
        (rows.flatMap fun values => (record values).toList ++ ['\n']) =
      some ⟨records ++ rows, [], [], .start⟩ := by
  induction rows generalizing records with
  | nil => rw [List.append_nil]; rfl
  | cons values rest ih =>
    rw [List.mem_cons, not_or] at hrows
    rw [List.flatMap_cons, List.append_assoc, List.singleton_append,
      run?_record (Ne.symm hrows.1), List.nil_append, ih hrows.2, List.append_assoc,
      List.singleton_append]

/-- Plain values are written as they are. -/
theorem record_eq_intercalate {values : List String}
    (hvalues : ∀ text ∈ values, isPlain text = true) : record values = ",".intercalate values := by
  rw [← String.toList_inj, record, String.toList_ofList, String.toList_intercalate]
  exact congrArg _ (List.map_congr_left fun text htext => if_pos (hvalues text htext))

end

end Text.Csv

namespace CommandLine

theorem Report.textOf_cons (line : String) (lines : List String) :
    textOf (line :: lines) = line ++ "\n" ++ textOf lines := by
  cases lines with
  | nil =>
    rw [textOf, List.map_singleton, String.intercalate_singleton]
    exact String.append_empty.symm
  | cons next rest =>
    rw [textOf, textOf, List.map_cons, List.map_cons, String.intercalate_cons_cons,
      String.append_empty]

theorem Report.toList_textOf (lines : List String) :
    (textOf lines).toList = lines.flatMap fun line => line.toList ++ ['\n'] := by
  induction lines with
  | nil => rfl
  | cons line rest ih =>
    rw [textOf_cons, String.toList_append, String.toList_append, ih, List.flatMap_cons]
    rfl

/-- Lines of records are read as these records. -/
theorem read?_textOf_records {records : List (List String)} (hrecords : [] ∉ records) :
    Text.Csv.read? (Report.textOf (records.map Text.Csv.record)) = some records := by
  rw [Text.Csv.read?, Report.toList_textOf, List.flatMap_map, Text.Csv.run?_records hrecords]
  rfl

/-- What would end a value or a record does not do so within quotes. -/
example : Text.Csv.read? "key,value\n\"a, \"\"b\"\"\nc\",\n" =
    some [["key", "value"], ["a, \"b\"\nc", ""]] := by decide

namespace SheetStyle

variable {Row : Type}

theorem perm_sortByField (columns : List (Column Row)) : (sortByField columns).Perm columns :=
  List.mergeSort_perm _ _

theorem csvLines_eq_map_record (columns : List (Column Row)) (rows : List Row) :
    csvLines columns rows =
      ((sortByField columns).map (·.field) ::
        rows.map fun row => (sortByField columns).map (·.cell row)).map Text.Csv.record := by
  have hfields : ∀ field ∈ (sortByField columns).map (·.field),
      Text.Csv.isPlain field = true := by
    intro field hfield
    obtain ⟨column, _, rfl⟩ := List.mem_map.1 hfield
    exact column.isPlain_field
  rw [csvLines, List.map_cons, List.map_map, Text.Csv.record_eq_intercalate hfields]
  rfl

/-- **A file of rows can be read back.** The text of any rows is read as the names of all columns,
and after them one record for each row with its values, in the order of the names. There has to be
a column, because an empty line is read as one empty value. -/
theorem read?_textOf_rows {columns : List (Column Row)} (hcolumns : columns ≠ [])
    {rows : List Row} (hrows : rows ≠ []) (quiet : Bool) :
    (sortByField columns).Perm columns ∧
      Text.Csv.read? (Report.textOf (SheetStyle.rows { format := .csv, quiet } columns rows)) =
        some ((sortByField columns).map (·.field) ::
          rows.map fun row => (sortByField columns).map (·.cell row)) := by
  have hperm := perm_sortByField columns
  have hsorted : sortByField columns ≠ [] := by
    intro hnil
    rw [hnil] at hperm
    exact hcolumns hperm.nil_eq.symm
  have hlines : SheetStyle.rows { format := .csv, quiet } columns rows = csvLines columns rows :=
    if_neg (by simpa using hrows)
  refine ⟨hperm, ?_⟩
  rw [hlines, csvLines_eq_map_record]
  apply read?_textOf_records
  simp [hsorted]

/-- Parameters with all that could be taken for an end or for quotes, and with nothing at all. -/
def oddParameters : List (String × List String) :=
  [("a, \"b\"\nc", ["\"", "\n"]), ("", [])]

theorem read?_textOf_rows_oddParameters :
    parameterColumns ≠ [] ∧ oddParameters ≠ [] ∧
      (sortByField parameterColumns).Perm parameterColumns ∧
        Text.Csv.read? (Report.textOf
            (SheetStyle.rows { format := .csv, quiet := false } parameterColumns oddParameters)) =
          some [["key", "values"], ["a, \"b\"\nc", "\", \n"], ["", ""]] := by
  have hcolumns : parameterColumns ≠ [] := List.cons_ne_nil _ _
  have hrows : oddParameters ≠ [] := List.cons_ne_nil _ _
  have hsorted : sortByField parameterColumns = parameterColumns :=
    List.mergeSort_of_pairwise (by decide)
  obtain ⟨hperm, hread⟩ := read?_textOf_rows hcolumns hrows false
  refine ⟨hcolumns, hrows, hperm, hread.trans ?_⟩
  rw [hsorted]
  decide

end SheetStyle

end CommandLine

end DeviceCatalog
