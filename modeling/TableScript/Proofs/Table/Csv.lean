import TableScript.Table.Export

set_option autoImplicit false

namespace TableScript.Csv

/-- What a reader has read of a field, the last character first. -/
inductive Field where
  /-- Outside of quotes. -/
  | plain (content : List Char)
  /-- After the opening quote. -/
  | quoted (content : List Char)
  /-- After the closing quote. -/
  | closed (content : List Char)

namespace Field

def content : Field → List Char
  | .plain content => content
  | .quoted content => content
  | .closed content => content

def text (field : Field) : String := String.ofList field.content.reverse

/-- The start of a field. -/
def start : Field := .plain []

end Field

/-- Reads the rest of a document. `record` holds the fields of the record that is being read, the last one
first. Commas separate fields and line breaks end records. A field that starts with a quote ends with the next
quote that is not doubled, and two quotes in it stand for one; other fields have neither quotes nor parts of a
line break in them. What breaks these rules is not read. -/
def readFrom (record : List String) : Field → List Char → Option (List (List String))
  | .quoted content, '"' :: '"' :: rest => readFrom record (.quoted ('"' :: content)) rest
  | .quoted content, '"' :: rest => readFrom record (.closed content) rest
  | .quoted content, c :: rest => readFrom record (.quoted (c :: content)) rest
  | .plain [], '"' :: rest => readFrom record (.quoted []) rest
  | field, ',' :: rest => readFrom (field.text :: record) .start rest
  | field, '\r' :: '\n' :: rest =>
    (readFrom [] .start rest).map fun records => (field.text :: record).reverse :: records
  | .plain content, c :: rest => if Export.csvQuotes c then none else readFrom record (.plain (c :: content)) rest
  | .closed _, _ :: _ => none
  | .plain [], [] => if record.isEmpty then some [] else none
  | _, [] => none

/-- The records of a document. -/
def read (document : String) : Option (List (List String)) := readFrom [] .start document.toList

section Field

variable {record : List String} {field : Field}

/-- Whether the field may end here. -/
def Field.Ends (field : Field) : Prop := ∀ content, field ≠ .quoted content

theorem readFrom_comma (ends : field.Ends) (rest : List Char) :
    readFrom record field (',' :: rest) = readFrom (field.text :: record) .start rest := by
  cases field with
  | plain content => cases content <;> rfl
  | quoted content => exact absurd rfl (ends content)
  | closed content => rfl

theorem readFrom_break (ends : field.Ends) (rest : List Char) :
    readFrom record field ('\r' :: '\n' :: rest) =
      (readFrom [] .start rest).map fun records => (field.text :: record).reverse :: records := by
  cases field with
  | plain content => cases content <;> rfl
  | quoted content => exact absurd rfl (ends content)
  | closed content => rfl

theorem readFrom_plain (record : List String) (content text rest : List Char)
    (bare : ∀ c ∈ text, Export.csvQuotes c = false) :
    readFrom record (.plain content) (text ++ rest) =
      readFrom record (.plain (text.reverse ++ content)) rest := by
  induction text generalizing content with
  | nil => rfl
  | cons c text ih =>
      have first : Export.csvQuotes c = false := bare c List.mem_cons_self
      have apart : c ≠ ',' ∧ c ≠ '"' ∧ c ≠ '\r' ∧ c ≠ '\n' := by
        simpa [Export.csvQuotes, not_or, and_assoc] using first
      have step : readFrom record (.plain content) (c :: (text ++ rest)) =
          readFrom record (.plain (c :: content)) (text ++ rest) := by
        rw [readFrom]
        · simp only [first, Bool.false_eq_true, ↓reduceIte]
        all_goals simp [apart]
      rw [List.cons_append, step, ih _ fun d member => bare d (List.mem_cons_of_mem c member)]
      simp

/-- Doubled quotes are read as the text they stand for, up to a quote that is not doubled. -/
theorem readFrom_quoted (record : List String) (content text rest : List Char)
    (single : rest.head? ≠ some '"') :
    readFrom record (.quoted content)
        ((text.flatMap fun c => if c = '"' then ['"', '"'] else [c]) ++ '"' :: rest) =
      readFrom record (.closed (text.reverse ++ content)) rest := by
  induction text generalizing content with
  | nil =>
      cases rest with
      | nil => rfl
      | cons c rest =>
          have other : c ≠ '"' := fun same => single (by rw [same]; rfl)
          rw [List.flatMap_nil, List.nil_append, readFrom]
          · rfl
          · simpa using other
  | cons c text ih =>
      by_cases quote : c = '"'
      · subst c
        simp only [List.flatMap_cons, ↓reduceIte, List.cons_append, List.nil_append, readFrom]
        rw [ih]
        simp
      · simp only [List.flatMap_cons, quote, ↓reduceIte, List.cons_append, List.nil_append]
        rw [readFrom, ih]
        · simp
        all_goals simp [quote]

/-- A written field is read as its text, and may end where it ends. -/
theorem readFrom_csvField (text : String) :
    ∃ field : Field, field.Ends ∧ field.text = text ∧ ∀ record rest, rest.head? ≠ some '"' →
      readFrom record .start ((Export.csvField text).toList ++ rest) = readFrom record field rest := by
  by_cases quotes : text.toList.any Export.csvQuotes = true
  · refine ⟨.closed text.toList.reverse, by simp [Field.Ends], by simp [Field.text, Field.content], ?_⟩
    intro record rest single
    have written : (Export.csvField text).toList ++ rest =
        '"' :: ((text.toList.flatMap fun c => if c = '"' then ['"', '"'] else [c]) ++ '"' :: rest) := by
      simp [Export.csvField, quotes]
    have opened := readFrom_quoted record [] text.toList rest single
    rw [List.append_nil] at opened
    rw [written, ← opened]
    rfl
  · refine ⟨.plain text.toList.reverse, by simp [Field.Ends], by simp [Field.text, Field.content], ?_⟩
    intro record rest single
    have bare : ∀ c ∈ text.toList, Export.csvQuotes c = false := by simpa using quotes
    have plain := readFrom_plain record [] text.toList rest bare
    rw [List.append_nil] at plain
    simp only [Export.csvField, quotes, Bool.false_eq_true, ↓reduceIte]
    exact plain

end Field

theorem toList_csvLine (fields : List String) :
    (Export.csvLine fields).toList =
      [','].intercalate (fields.map fun text => (Export.csvField text).toList) ++ ['\r', '\n'] := by
  simp [Export.csvLine, String.toList_intercalate, Function.comp_def]

/-- A written line is read as one record of its fields. -/
theorem readFrom_csvLine (record fields : List String) (filled : fields ≠ []) (rest : List Char) :
    readFrom record .start ((Export.csvLine fields).toList ++ rest) =
      (readFrom [] .start rest).map fun records => (record.reverse ++ fields) :: records := by
  rw [toList_csvLine]
  induction fields generalizing record with
  | nil => exact absurd rfl filled
  | cons text fields ih =>
      obtain ⟨field, ends, same, reads⟩ := readFrom_csvField text
      cases fields with
      | nil =>
          have line : [','].intercalate ([text].map fun text => (Export.csvField text).toList) ++
                ['\r', '\n'] ++ rest =
              (Export.csvField text).toList ++ '\r' :: '\n' :: rest := by simp
          rw [line, reads record _ (by simp), readFrom_break ends, same, List.reverse_cons]
      | cons next fields =>
          have line : [','].intercalate ((text :: next :: fields).map fun text => (Export.csvField text).toList) ++
                ['\r', '\n'] ++ rest =
              (Export.csvField text).toList ++ ',' ::
                ([','].intercalate ((next :: fields).map fun text => (Export.csvField text).toList) ++
                  ['\r', '\n'] ++ rest) := by
            simp [List.intercalate_cons_cons]
          rw [line, reads record _ (by simp), readFrom_comma ends, same, ih _ (List.cons_ne_nil _ _)]
          simp

theorem readFrom_csvLines (lines : List (List String)) (filled : ∀ fields ∈ lines, fields ≠ []) :
    readFrom [] .start (String.join (lines.map Export.csvLine)).toList = some lines := by
  induction lines with
  | nil => rfl
  | cons fields lines ih =>
      have rest := ih fun other among => filled other (List.mem_cons_of_mem fields among)
      rw [List.map_cons, String.join_cons, String.toList_append,
        readFrom_csvLine [] fields (filled fields List.mem_cons_self), rest]
      rfl

/-- What a table with columns is written as is read as the columns and then, row by row, the texts that its
cells show. -/
theorem read_csv (table : Table Value) (columned : table.columns ≠ []) :
    read (Export.csv table) =
      some (table.columns ::
        table.rows.map fun row => table.columns.map fun column => (Row.cell row column).template) := by
  have lines : Export.csv table =
      String.join ((table.columns :: table.rows.map (Export.cells table)).map Export.csvLine) := by
    simp [Export.csv, Function.comp_def]
  rw [read, lines]
  apply readFrom_csvLines
  intro fields among
  rcases List.mem_cons.mp among with rfl | row
  · exact columned
  · obtain ⟨row, -, rfl⟩ := List.mem_map.mp row
    simpa [Export.cells] using columned

/-- Commas, quotes and parts of line breaks in a name and in cells, an empty cell and a missing one. -/
theorem read_csv_of_marks :
    read (Export.csv (.plain ["a,\"b"]
        [⟨[("a,\"b", .text "\r\n\"\",")]⟩, ⟨[("a,\"b", .text "")]⟩, ⟨[("a,\"b", .text "\r")]⟩, ⟨[]⟩])) =
      some [["a,\"b"], ["\r\n\"\","], [""], ["\r"], [""]] :=
  read_csv _ (List.cons_ne_nil _ _)

end TableScript.Csv
