import TableScript.Table.Export

set_option autoImplicit false

namespace TableScript.Html

/-- What stands for the characters that mean something else in markup. -/
def entities : List String := ["&amp;", "&lt;", "&gt;", "&#34;", "&#39;"]

/-- Entities become the characters they stand for. -/
def decodeChars : List Char → List Char
  | '&' :: 'a' :: 'm' :: 'p' :: ';' :: rest => '&' :: decodeChars rest
  | '&' :: 'l' :: 't' :: ';' :: rest => '<' :: decodeChars rest
  | '&' :: 'g' :: 't' :: ';' :: rest => '>' :: decodeChars rest
  | '&' :: '#' :: '3' :: '4' :: ';' :: rest => '"' :: decodeChars rest
  | '&' :: '#' :: '3' :: '9' :: ';' :: rest => '\'' :: decodeChars rest
  | c :: rest => c :: decodeChars rest
  | [] => []

def decode (text : String) : String := String.ofList (decodeChars text.toList)

/-- A tag, and the text between the tag before and it. -/
structure Piece where
  text : String
  tag : String
deriving DecidableEq, Repr

/-- Text without tags, and then the start of one. -/
def piece? (part : List Char) : Option Piece :=
  match part.splitOn '<' with
  | [text, tag] => some ⟨String.ofList text, String.ofList tag⟩
  | _ => none

/-- Reads a document that ends with a tag. Every `<` starts a tag and the next `>` ends it; there are no others. -/
def read (document : String) : Option (List Piece) :=
  let parts := document.toList.splitOn '>'
  if parts.getLast? = some [] then parts.dropLast.mapM piece? else none

/-- What stands before the end tags of the elements with the name. -/
def contents (name : String) (pieces : List Piece) : List String :=
  (pieces.filter (·.tag == "/" ++ name)).map (·.text)

section Escape

/-- A character is written as itself, or as an entity if it means something else in markup. -/
theorem htmlChar_cases (c : Char) :
    (c ∉ ['&', '<', '>', '"', '\''] ∧ Export.htmlChar c = [c]) ∨
      ∃ entity ∈ entities, Export.htmlChar c = entity.toList := by
  unfold Export.htmlChar
  split
  case h_6 other₁ other₂ other₃ other₄ other₅ =>
    refine .inl ⟨?_, rfl⟩
    simp only [List.mem_cons, List.not_mem_nil, or_false, not_or]
    exact ⟨other₁, other₂, other₃, other₄, other₅⟩
  all_goals exact .inr ⟨_, by simp [entities], rfl⟩

theorem toList_escapeHtml (text : String) :
    (Export.escapeHtml text).toList = text.toList.flatMap Export.htmlChar := by
  rw [Export.escapeHtml, String.toList_ofList]

/-- No markup in an entity. -/
theorem not_mem_entity {mark : Char} (markup : mark ∈ ['<', '>', '"', '\'']) :
    ∀ entity ∈ entities, mark ∉ entity.toList := by
  simp only [List.mem_cons, List.not_mem_nil, or_false] at markup
  rcases markup with rfl | rfl | rfl | rfl <;> decide

theorem not_mem_escapeHtml {mark : Char} (markup : mark ∈ ['<', '>', '"', '\'']) (text : String) :
    mark ∉ (Export.escapeHtml text).toList := by
  rw [toList_escapeHtml, List.mem_flatMap]
  rintro ⟨c, -, written⟩
  rcases htmlChar_cases c with ⟨plain, same⟩ | ⟨entity, listed, same⟩
  · obtain rfl : mark = c := List.mem_singleton.mp (same ▸ written)
    exact plain (List.mem_cons_of_mem _ markup)
  · exact not_mem_entity markup entity listed (same ▸ written)

theorem suffix_of_suffix_append {mark : Char} {front : List Char} (absent : mark ∉ front)
    {back rest : List Char} (suffix : mark :: back <:+ front ++ rest) : mark :: back <:+ rest := by
  induction front with
  | nil => exact suffix
  | cons c front ih =>
    rcases List.suffix_cons_iff.mp suffix with same | later
    · exact absurd (List.cons.inj same).1 (List.ne_of_not_mem_cons absent)
    · exact ih (List.not_mem_of_not_mem_cons absent) later

theorem entity_shape : ∀ entity ∈ entities, ∃ name, entity.toList = '&' :: name ∧ '&' ∉ name := by
  have shape : ∀ entity ∈ entities, '&' :: entity.toList.tail = entity.toList ∧ '&' ∉ entity.toList.tail := by
    decide
  exact fun entity listed => ⟨_, (shape entity listed).1.symm, (shape entity listed).2⟩

/-- Wherever an ampersand is written, an entity starts. -/
theorem entity_of_ampersand {text back : List Char} (suffix : '&' :: back <:+ text.flatMap Export.htmlChar) :
    ∃ entity ∈ entities, entity.toList <+: '&' :: back := by
  induction text with
  | nil => exact absurd (List.suffix_nil.mp suffix) (List.cons_ne_nil _ _)
  | cons c rest ih =>
    rw [List.flatMap_cons] at suffix
    rcases htmlChar_cases c with ⟨plain, same⟩ | ⟨entity, listed, same⟩
    · have other : '&' ∉ [c] := fun here => plain (List.mem_singleton.mp here ▸ List.mem_cons_self)
      exact ih (suffix_of_suffix_append other (same ▸ suffix))
    · obtain ⟨name, shape, others⟩ := entity_shape entity listed
      rw [same, shape, List.cons_append] at suffix
      rcases List.suffix_cons_iff.mp suffix with here | later
      · refine ⟨entity, listed, ?_⟩
        rw [shape, here]
        exact List.prefix_append ('&' :: name) _
      · exact ih (suffix_of_suffix_append others later)

theorem decodeChars_cons {c : Char} (plain : c ≠ '&') (rest : List Char) :
    decodeChars (c :: rest) = c :: decodeChars rest := by
  rw [decodeChars]
  all_goals simp [plain]

/-- What is written for a character is read as the character, whatever follows. -/
theorem decodeChars_htmlChar (c : Char) (rest : List Char) :
    decodeChars (Export.htmlChar c ++ rest) = c :: decodeChars rest := by
  unfold Export.htmlChar
  split
  case h_6 other _ _ _ _ => exact decodeChars_cons other rest
  all_goals rfl

theorem decode_escapeHtml (text : String) : decode (Export.escapeHtml text) = text := by
  have each : ∀ chars : List Char, decodeChars (chars.flatMap Export.htmlChar) = chars := by
    intro chars
    induction chars with
    | nil => rfl
    | cons c rest ih => rw [List.flatMap_cons, decodeChars_htmlChar, ih]
  rw [decode, toList_escapeHtml, each, String.ofList_toList]

end Escape

section Document

/-- The text and the tag as they are written. -/
def Piece.written (piece : Piece) : List Char := piece.text.toList ++ '<' :: (piece.tag.toList ++ ['>'])

/-- No text and no name of a tag has a character that starts or ends a tag. -/
def Piece.Clean (piece : Piece) : Prop :=
  ('<' ∉ piece.text.toList ∧ '>' ∉ piece.text.toList) ∧ '<' ∉ piece.tag.toList ∧ '>' ∉ piece.tag.toList

theorem piece?_of_clean {piece : Piece} (clean : piece.Clean) :
    piece? (piece.text.toList ++ '<' :: piece.tag.toList) = some piece := by
  rw [piece?, List.splitOn_append_cons_self_of_not_mem clean.1.1, List.splitOn_eq_singleton clean.2.1]
  simp

theorem splitOn_written {pieces : List Piece} (clean : ∀ piece ∈ pieces, piece.Clean) :
    (pieces.flatMap Piece.written).splitOn '>' =
      (pieces.map fun piece => piece.text.toList ++ '<' :: piece.tag.toList) ++ [[]] := by
  induction pieces with
  | nil => rfl
  | cons piece rest ih =>
    obtain ⟨⟨-, text⟩, -, tag⟩ := clean piece List.mem_cons_self
    have closed : '>' ∉ piece.text.toList ++ '<' :: piece.tag.toList := by simp [text, tag]
    have line : (piece :: rest).flatMap Piece.written =
        (piece.text.toList ++ '<' :: piece.tag.toList) ++ '>' :: rest.flatMap Piece.written := by
      simp [Piece.written]
    rw [line, List.splitOn_append_cons_self_of_not_mem closed,
      ih fun other member => clean other (List.mem_cons_of_mem piece member)]
    rfl

/-- Pieces without stray markup are read as they were written. -/
theorem read_written {document : String} {pieces : List Piece} (clean : ∀ piece ∈ pieces, piece.Clean)
    (written : document.toList = pieces.flatMap Piece.written) : read document = some pieces := by
  have each : (pieces.map fun piece => piece.text.toList ++ '<' :: piece.tag.toList).mapM piece? =
      some pieces := by
    clear written
    induction pieces with
    | nil => rfl
    | cons piece rest ih =>
      rw [List.map_cons, List.mapM_cons, piece?_of_clean (clean piece List.mem_cons_self),
        ih fun other member => clean other (List.mem_cons_of_mem piece member)]
      rfl
  simp [read, written, splitOn_written clean, each]

end Document

section Table

/-- An element for each text. -/
def cellPieces (name : String) (texts : List String) : List Piece :=
  texts.flatMap fun text => [⟨"", name⟩, ⟨Export.escapeHtml text, "/" ++ name⟩]

/-- A line with the elements of a row. -/
def rowPieces (name : String) (texts : List String) : List Piece :=
  ⟨"\n    ", "tr"⟩ :: cellPieces name texts ++ [⟨"", "/tr"⟩]

/-- The columns in a head of their own, if there are any. -/
def headPieces (columns : List String) : List Piece :=
  if columns.isEmpty then [] else ⟨"\n  ", "thead"⟩ :: rowPieces "th" columns ++ [⟨"\n  ", "/thead"⟩]

/-- The pieces of a document with a table. -/
def tablePieces (table : Table Value) : List Piece :=
  ⟨"", "table"⟩ :: headPieces table.columns ++
    ⟨"\n  ", "tbody"⟩ :: table.rows.flatMap (fun row => rowPieces "td" (Export.cells table row)) ++
    [⟨"\n  ", "/tbody"⟩, ⟨"\n", "/table"⟩]

theorem written_cellPieces (name : String) (texts : List String) :
    (String.join (texts.map (Export.htmlCell name))).toList =
      (cellPieces name texts).flatMap Piece.written := by
  rw [String.toList_join, List.flatMap_map, cellPieces, List.flatMap_assoc]
  refine congrArg (List.flatMap · texts) (funext fun text => ?_)
  simp [Export.htmlCell, Piece.written]

/-- A row with the line break before it instead of the one after it. -/
theorem written_rowPieces (name : String) (texts : List String) :
    '\n' :: ("    " ++ Export.htmlCells name texts).toList =
      (rowPieces name texts).flatMap Piece.written ++ ['\n'] := by
  simp only [Export.htmlCells, String.toList_append, written_cellPieces, rowPieces, List.flatMap_append,
    List.flatMap_cons, List.append_assoc]
  simp [Piece.written]

theorem written_bodyRows {α : Type} (cells : α → List String) (rows : List α) :
    '\n' :: (String.join (rows.map fun row => "    " ++ Export.htmlCells "td" (cells row))).toList =
      (rows.flatMap fun row => rowPieces "td" (cells row)).flatMap Piece.written ++ ['\n'] := by
  induction rows with
  | nil => rfl
  | cons row rest ih =>
    rw [List.map_cons, String.join_cons, String.toList_append, ← List.cons_append, written_rowPieces,
      List.append_assoc, List.singleton_append, ih, List.flatMap_cons, List.flatMap_append, List.append_assoc]

/-- The head and the line break before it, in front of another line. -/
theorem written_headPieces (columns : List String) (rest : List Char) :
    '\n' :: ((if columns.isEmpty then "" else "  <thead>\n    " ++ Export.htmlCells "th" columns ++
        "  </thead>\n").toList ++ rest) =
      (headPieces columns).flatMap Piece.written ++ '\n' :: rest := by
  unfold headPieces
  split
  · rfl
  · have lines : ("  <thead>\n    " ++ Export.htmlCells "th" columns ++ "  </thead>\n").toList =
        "  <thead>".toList ++ '\n' :: ("    " ++ Export.htmlCells "th" columns).toList ++
          "  </thead>\n".toList := by simp
    rw [lines, written_rowPieces]
    simp [Piece.written]

/-- A table is written as its pieces. -/
theorem toList_html (table : Table Value) :
    (Export.html table).toList = (tablePieces table).flatMap Piece.written := by
  let head := if table.columns.isEmpty then "" else "  <thead>\n    " ++ Export.htmlCells "th" table.columns ++
    "  </thead>\n"
  let body := String.join (table.rows.map fun row => "    " ++ Export.htmlCells "td" (Export.cells table row))
  let bodyPieces := table.rows.flatMap fun row => rowPieces "td" (Export.cells table row)
  have rows : '\n' :: body.toList = bodyPieces.flatMap Piece.written ++ ['\n'] :=
    written_bodyRows (Export.cells table) table.rows
  calc (Export.html table).toList
    _ = "<table>".toList ++ '\n' :: (head.toList ++
          ("  <tbody>".toList ++ '\n' :: body.toList ++ "  </tbody>\n</table>".toList)) := by
        simp [Export.html, head, body]
    _ = "<table>".toList ++ ((headPieces table.columns).flatMap Piece.written ++ '\n' ::
          ("  <tbody>".toList ++ (bodyPieces.flatMap Piece.written ++ ['\n']) ++
            "  </tbody>\n</table>".toList)) := by
        rw [written_headPieces, rows]
    _ = (tablePieces table).flatMap Piece.written := by
        simp [tablePieces, Piece.written, bodyPieces]

/-- The pieces that are the same in all tables. -/
def frame : List Piece :=
  [⟨"", "table"⟩, ⟨"\n  ", "thead"⟩, ⟨"\n    ", "tr"⟩, ⟨"", "th"⟩, ⟨"", "td"⟩, ⟨"", "/tr"⟩, ⟨"\n  ", "/thead"⟩,
    ⟨"\n  ", "tbody"⟩, ⟨"\n  ", "/tbody"⟩, ⟨"\n", "/table"⟩]

/-- A piece that all tables have in common, or an escaped text in a cell. -/
def Expected (piece : Piece) : Prop :=
  piece ∈ frame ∨ ∃ name ∈ ["th", "td"], ∃ text, piece = ⟨Export.escapeHtml text, "/" ++ name⟩

theorem expected_rowPieces {name : String} (cell : name ∈ ["th", "td"]) (texts : List String) :
    ∀ piece ∈ rowPieces name texts, Expected piece := by
  have cells : ∀ piece ∈ cellPieces name texts, Expected piece := by
    simp only [cellPieces, List.mem_flatMap, List.mem_cons, List.not_mem_nil, or_false]
    rintro piece ⟨text, -, rfl | rfl⟩
    · have opening : ∀ name ∈ ["th", "td"], ⟨"", name⟩ ∈ frame := by decide
      exact .inl (opening name cell)
    · exact .inr ⟨name, cell, text, rfl⟩
  unfold rowPieces
  rw [List.forall_mem_append, List.forall_mem_cons, List.forall_mem_singleton]
  exact ⟨⟨.inl (by simp [frame]), cells⟩, .inl (by simp [frame])⟩

theorem expected_tablePieces (table : Table Value) : ∀ piece ∈ tablePieces table, Expected piece := by
  have head : ∀ piece ∈ headPieces table.columns, Expected piece := by
    unfold headPieces
    split
    · exact nofun
    · rw [List.forall_mem_append, List.forall_mem_cons, List.forall_mem_singleton]
      exact ⟨⟨.inl (by simp [frame]), expected_rowPieces (by simp) _⟩, .inl (by simp [frame])⟩
  have rows : ∀ piece ∈ table.rows.flatMap fun row => rowPieces "td" (Export.cells table row),
      Expected piece := by
    intro piece member
    obtain ⟨row, -, here⟩ := List.mem_flatMap.mp member
    exact expected_rowPieces (by simp) _ piece here
  unfold tablePieces
  simp only [List.forall_mem_append, List.forall_mem_cons]
  exact ⟨⟨⟨.inl (by simp [frame]), head⟩, .inl (by simp [frame]), rows⟩,
    .inl (by simp [frame]), .inl (by simp [frame]), nofun⟩

theorem Expected.clean {piece : Piece} (expected : Expected piece) : piece.Clean := by
  rcases expected with member | ⟨name, cell, text, rfl⟩
  · have each : ∀ piece ∈ frame, ('<' ∉ piece.text.toList ∧ '>' ∉ piece.text.toList) ∧
        '<' ∉ piece.tag.toList ∧ '>' ∉ piece.tag.toList := by decide
    exact each piece member
  · have tags : ∀ name ∈ ["th", "td"], '<' ∉ ("/" ++ name).toList ∧ '>' ∉ ("/" ++ name).toList := by decide
    exact ⟨⟨not_mem_escapeHtml (by simp) text, not_mem_escapeHtml (by simp) text⟩, tags name cell⟩

/-- Outside of cells there are line breaks and blanks only. -/
theorem Expected.blank {piece : Piece} (expected : Expected piece) (outside : piece.tag ∉ ["/th", "/td"]) :
    ∀ c ∈ piece.text.toList, c = '\n' ∨ c = ' ' := by
  rcases expected with member | ⟨name, cell, text, rfl⟩
  · have each : ∀ piece ∈ frame, piece.text.toList.all ['\n', ' '].contains := by decide
    intro c among
    simpa using List.all_eq_true.mp (each piece member) c among
  · have closing : ∀ name ∈ ["th", "td"], "/" ++ name ∈ ["/th", "/td"] := by decide
    exact absurd (closing name cell) outside

/-- The tags of a row of so many columns. -/
def rowTags (name : String) (columns : Nat) : List String :=
  "tr" :: (List.replicate columns [name, "/" ++ name]).flatten ++ ["/tr"]

/-- The tags of a table of so many columns and rows. -/
def tableTags (columns rows : Nat) : List String :=
  "table" :: (if columns = 0 then [] else "thead" :: rowTags "th" columns ++ ["/thead"]) ++
    "tbody" :: (List.replicate rows (rowTags "td" columns)).flatten ++ ["/tbody", "/table"]

theorem tags_cellPieces (name : String) (texts : List String) :
    (cellPieces name texts).map (·.tag) = (List.replicate texts.length [name, "/" ++ name]).flatten := by
  induction texts with
  | nil => rfl
  | cons text rest ih => simpa [cellPieces, List.replicate_succ] using ih

theorem tags_rowPieces (name : String) (texts : List String) :
    (rowPieces name texts).map (·.tag) = rowTags name texts.length := by
  simp only [rowPieces, List.map_append, List.map_cons, tags_cellPieces]
  rfl

theorem tags_bodyRows {α : Type} (cells : α → List String) {columns : Nat}
    (filled : ∀ row, (cells row).length = columns) (rows : List α) :
    (rows.flatMap fun row => rowPieces "td" (cells row)).map (·.tag) =
      (List.replicate rows.length (rowTags "td" columns)).flatten := by
  induction rows with
  | nil => rfl
  | cons row rest ih =>
    rw [List.flatMap_cons, List.map_append, tags_rowPieces, filled, ih]
    rfl

theorem tags_tablePieces (table : Table Value) :
    (tablePieces table).map (·.tag) = tableTags table.columns.length table.rows.length := by
  have filled : ∀ row, (Export.cells table row).length = table.columns.length := fun row => List.length_map _
  have head : (headPieces table.columns).map (·.tag) =
      if table.columns.length = 0 then [] else "thead" :: rowTags "th" table.columns.length ++ ["/thead"] := by
    unfold headPieces
    cases table.columns with
    | nil => rfl
    | cons column rest => simp [tags_rowPieces]
  simp only [tablePieces, tableTags, List.map_append, List.map_cons, head, tags_bodyRows _ filled]
  rfl

theorem count_repeated (times : Nat) (names : List String) (name : String) :
    (List.replicate times names).flatten.count name = times * names.count name := by
  rw [List.count_flatten, List.map_replicate, List.sum_replicate_nat]

theorem count_rowTags (cell name : String) (columns : Nat) :
    (rowTags cell columns).count name = ["tr", "/tr"].count name + columns * [cell, "/" ++ cell].count name := by
  simp only [rowTags, List.cons_append, List.count_cons, List.count_append, count_repeated, List.count_nil]
  omega

/-- One element for each column in the head, and one for each row and column in the body. -/
theorem count_tableTags (columns rows : Nat) :
    (tableTags columns rows).count "th" = columns ∧ (tableTags columns rows).count "td" = rows * columns := by
  unfold tableTags
  simp only [List.cons_append, List.count_cons, List.count_append, count_repeated, count_rowTags]
  split
  next none => simp [none]
  next => simp [List.count_append, count_rowTags]

theorem contents_append (name : String) (first second : List Piece) :
    contents name (first ++ second) = contents name first ++ contents name second := by
  simp [contents]

theorem contents_cons (name : String) (piece : Piece) (rest : List Piece) :
    contents name (piece :: rest) =
      if piece.tag = "/" ++ name then piece.text :: contents name rest else contents name rest := by
  simp only [contents, List.filter_cons, beq_iff_eq]
  split <;> rfl

theorem contents_flatMap {α : Type} (name : String) (pieces : α → List Piece) (items : List α) :
    contents name (items.flatMap pieces) = items.flatMap fun item => contents name (pieces item) := by
  induction items with
  | nil => rfl
  | cons item rest ih => rw [List.flatMap_cons, contents_append, ih, List.flatMap_cons]

theorem contents_cellPieces {name : String} (apart : name ≠ "/" ++ name) (texts : List String) :
    contents name (cellPieces name texts) = texts.map Export.escapeHtml := by
  rw [cellPieces, contents_flatMap]
  have each : ∀ text, contents name [⟨"", name⟩, ⟨Export.escapeHtml text, "/" ++ name⟩] =
      [Export.escapeHtml text] := by
    intro text
    simp [contents, apart]
  simp only [each]
  exact (List.map_eq_flatMap).symm

/-- Elements have no elements with another name in them. -/
theorem contents_cellPieces_of_ne {name other : String} (opens : name ≠ "/" ++ other) (apart : name ≠ other)
    (texts : List String) : contents other (cellPieces name texts) = [] := by
  rw [cellPieces, contents_flatMap]
  simp [contents, opens, apart]

theorem contents_rowPieces {other : String} (cell : other ∈ ["th", "td"]) (name : String) (texts : List String) :
    contents other (rowPieces name texts) = contents other (cellPieces name texts) := by
  have outside : "tr" ≠ "/" ++ other ∧ "/tr" ≠ "/" ++ other := by
    revert other
    decide
  rw [rowPieces, contents_append, contents_cons, contents_cons, if_neg outside.1, if_neg outside.2]
  exact List.append_nil _

theorem contents_headPieces (columns : List String) :
    contents "th" (headPieces columns) = columns.map Export.escapeHtml ∧
      contents "td" (headPieces columns) = [] := by
  unfold headPieces
  cases columns with
  | nil => exact ⟨rfl, rfl⟩
  | cons column rest =>
    rw [if_neg (by simp)]
    constructor
    · rw [contents_append, contents_cons, if_neg (by decide), contents_rowPieces (by simp),
        contents_cellPieces (by decide)]
      exact List.append_nil _
    · rw [contents_append, contents_cons, if_neg (by decide), contents_rowPieces (by simp),
        contents_cellPieces_of_ne (by decide) (by decide)]
      rfl

theorem contents_bodyRows {α : Type} (cells : α → List String) (rows : List α) :
    contents "th" (rows.flatMap fun row => rowPieces "td" (cells row)) = [] ∧
      contents "td" (rows.flatMap fun row => rowPieces "td" (cells row)) =
        rows.flatMap fun row => (cells row).map Export.escapeHtml := by
  have headless (texts : List String) : contents "th" (rowPieces "td" texts) = [] := by
    rw [contents_rowPieces (by simp), contents_cellPieces_of_ne (by decide) (by decide)]
  have filled (texts : List String) : contents "td" (rowPieces "td" texts) = texts.map Export.escapeHtml := by
    rw [contents_rowPieces (by simp), contents_cellPieces (by decide)]
  rw [contents_flatMap, contents_flatMap]
  simp [headless, filled]

/-- The head holds the columns, and the body the cells row by row, all of them escaped. -/
theorem contents_tablePieces (table : Table Value) :
    contents "th" (tablePieces table) = table.columns.map Export.escapeHtml ∧
      contents "td" (tablePieces table) =
        table.rows.flatMap fun row => (Export.cells table row).map Export.escapeHtml := by
  obtain ⟨titles, noCells⟩ := contents_headPieces table.columns
  obtain ⟨noTitles, cells⟩ := contents_bodyRows (Export.cells table) table.rows
  unfold tablePieces
  constructor
  · rw [contents_append, contents_append, contents_cons, if_neg (by decide), titles, contents_cons,
      if_neg (by decide), noTitles, List.append_nil]
    exact List.append_nil _
  · rw [contents_append, contents_append, contents_cons, if_neg (by decide), noCells, contents_cons,
      if_neg (by decide), cells, List.nil_append]
    exact List.append_nil _

end Table

/-- An escaped text has no character of markup in it but ampersands, each of which starts an entity, and it is
decoded to the text. So a table, whatever its columns and cells are made of, is read as the tags of one table
with a cell for each column in the head and for each row and column in the body; decoded, the cells of the head
are the columns and those of the body the texts that the cells show, row by row, and no other text stands
between the tags. -/
theorem read_html :
    (∀ text, (∀ mark ∈ ['<', '>', '"', '\''], mark ∉ (Export.escapeHtml text).toList) ∧
      (∀ back, '&' :: back <:+ (Export.escapeHtml text).toList →
        ∃ entity ∈ entities, entity.toList <+: '&' :: back) ∧
      decode (Export.escapeHtml text) = text) ∧
    ∀ table : Table Value, ∃ pieces, read (Export.html table) = some pieces ∧
      pieces.map (·.tag) = tableTags table.columns.length table.rows.length ∧
      (pieces.map (·.tag)).count "th" = table.columns.length ∧
      (pieces.map (·.tag)).count "td" = table.rows.length * table.columns.length ∧
      (contents "th" pieces).map decode = table.columns ∧
      (contents "td" pieces).map decode =
        (table.rows.flatMap fun row => table.columns.map fun column => (Row.cell row column).template) ∧
      ∀ piece ∈ pieces, piece.tag ∉ ["/th", "/td"] → ∀ c ∈ piece.text.toList, c = '\n' ∨ c = ' ' := by
  refine ⟨fun text => ⟨fun mark markup => not_mem_escapeHtml markup text, fun back suffix => ?_,
    decode_escapeHtml text⟩, fun table => ⟨tablePieces table, ?_, tags_tablePieces table, ?_, ?_, ?_, ?_, ?_⟩⟩
  · rw [toList_escapeHtml] at suffix
    exact entity_of_ampersand suffix
  · exact read_written (fun piece member => (expected_tablePieces table piece member).clean) (toList_html table)
  · rw [tags_tablePieces, (count_tableTags _ _).1]
  · rw [tags_tablePieces, (count_tableTags _ _).2]
  · rw [(contents_tablePieces table).1]
    simp [Function.comp_def, decode_escapeHtml]
  · rw [(contents_tablePieces table).2]
    simp [List.map_flatMap, Function.comp_def, decode_escapeHtml, Export.cells, Export.cellText]
  · exact fun piece member => (expected_tablePieces table piece member).blank

/-- Markup and entities, whole and half, in a name and in a cell. -/
example :
    (read (Export.html (.plain ["<b>"] [⟨[("<b>", .text "&lt;&lt")]⟩]))).map (contents "td") =
      some ["&amp;lt;&amp;lt"] := by decide +kernel

end TableScript.Html
