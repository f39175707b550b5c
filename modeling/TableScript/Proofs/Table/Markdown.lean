import TableScript.Table.Export

set_option autoImplicit false

namespace TableScript.Markdown

/-- The lines of a document, which any part of a line break ends. -/
def lines (document : String) : List (List Char) :=
  document.toList.splitOnP fun c => c == '\r' || c == '\n'

/-- How many pipes have no backslash right before them. -/
def bars (line : List Char) : Nat :=
  ((' ' :: line).zip line).countP fun pair => pair.2 == '|' && pair.1 != '\\'

/-- Cuts the rest of a line at these pipes. `escaped` says whether a backslash stands right before it, and
`part` holds what was read since the last cut, the last character first. -/
def cutFrom (escaped : Bool) (part : List Char) : List Char → List (List Char)
  | [] => [part.reverse]
  | c :: rest =>
    if c == '|' && !escaped then part.reverse :: cutFrom false [] rest
    else cutFrom (c == '\\') (c :: part) rest

/-- The parts of a line. -/
def cut (line : List Char) : List (List Char) := cutFrom false [] line

/-- Takes one blank away on each side. -/
def unpad? : List Char → Option (List Char)
  | ' ' :: text => if text.getLast? = some ' ' then some text.dropLast else none
  | _ => none

/-- A pipe instead of a backslash with a pipe. -/
def unescape : List Char → List Char
  | '\\' :: '|' :: rest => '|' :: unescape rest
  | c :: rest => c :: unescape rest
  | [] => []

/-- The texts of a line that starts and ends with a pipe. -/
def readLine (line : List Char) : Option (List String) :=
  match cut line with
  | [] :: parts =>
    if parts.getLast? = some [] then
      parts.dropLast.mapM fun part => (unpad? part).map fun text => String.ofList (unescape text)
    else none
  | _ => none

/-- The texts of a document line by line. -/
def read (document : String) : Option (List (List String)) := (lines document).mapM readLine

/-- A blank instead of each carriage return with a line feed. -/
def joinBreaks : List Char → List Char
  | '\r' :: '\n' :: rest => ' ' :: joinBreaks rest
  | c :: rest => c :: joinBreaks rest
  | [] => []

/-- A blank instead of each line break: first of the pairs, and then of the characters that are left. -/
def spaced (text : String) : String :=
  String.ofList ((joinBreaks text.toList).map fun c => if c = '\r' ∨ c = '\n' then ' ' else c)

section Text

/-- A backslash before each pipe. -/
def escaped (text : List Char) : List Char := text.flatMap fun c => if c = '|' then ['\\', '|'] else [c]

theorem escaped_cons (c : Char) (rest : List Char) :
    escaped (c :: rest) = (if c = '|' then ['\\', '|'] else [c]) ++ escaped rest := List.flatMap_cons

/-- One pass over a text does what the two replacements do one after the other. -/
theorem unbroken_eq (text : List Char) :
    Export.unbroken text = (joinBreaks text).map fun c => if c = '\r' ∨ c = '\n' then ' ' else c := by
  fun_induction Export.unbroken text with
  | case1 => rfl
  | case2 rest ih => rw [ih, joinBreaks]; simp
  | case3 c rest apart ih =>
    rw [ih, joinBreaks]
    · rfl
    · exact apart

theorem toList_escapeMarkdown (text : String) :
    (Export.escapeMarkdown text).toList = escaped (spaced text).toList := by
  rw [Export.escapeMarkdown, String.toList_ofList, spaced, String.toList_ofList, unbroken_eq]
  rfl

theorem mem_spaced {c : Char} {text : String} (member : c ∈ (spaced text).toList) : c ≠ '\r' ∧ c ≠ '\n' := by
  rw [spaced, String.toList_ofList, List.mem_map] at member
  obtain ⟨d, -, rfl⟩ := member
  split
  · exact ⟨by decide, by decide⟩
  next other => exact not_or.mp other

theorem mem_escaped {c : Char} {text : List Char} (member : c ∈ escaped text) : c = '\\' ∨ c ∈ text := by
  obtain ⟨d, among, here⟩ := List.mem_flatMap.mp member
  split at here
  next pipe =>
    subst pipe
    rcases List.mem_cons.mp here with backslash | here
    · exact .inl backslash
    · exact .inr (List.mem_singleton.mp here ▸ among)
  next => exact .inr (List.mem_singleton.mp here ▸ among)

/-- No pipe comes first. -/
theorem head?_escaped (text : List Char) : (escaped text).head? ≠ some '|' := by
  cases text with
  | nil => exact nofun
  | cons c rest =>
    rw [escaped_cons]
    split
    · simp
    next other => simpa using other

theorem unescape_cons {c : Char} {rest : List Char} (plain : c ≠ '\\' ∨ rest.head? ≠ some '|') :
    unescape (c :: rest) = c :: unescape rest := by
  rw [unescape]
  rintro tail rfl rfl
  simp at plain

theorem unescape_escaped (text : List Char) : unescape (escaped text) = text := by
  induction text with
  | nil => rfl
  | cons c rest ih =>
    rw [escaped_cons]
    split
    next pipe =>
      subst pipe
      rw [List.cons_append, List.cons_append, List.nil_append, unescape, ih]
    next => rw [List.singleton_append, unescape_cons (.inr (head?_escaped rest)), ih]

theorem unpad?_padded (text : List Char) : unpad? (' ' :: (text ++ [' '])) = some text := by
  simp [unpad?]

end Text

section Line

/-- The pipes of an escaped text do not cut the line, whatever stands before it. -/
theorem cutFrom_escaped (marked : Bool) (part text rest : List Char) :
    cutFrom marked part (escaped text ++ ' ' :: '|' :: rest) =
      (part.reverse ++ (escaped text ++ [' '])) :: cutFrom false [] rest := by
  induction text generalizing marked part with
  | nil => simp [escaped, cutFrom]
  | cons c tail ih =>
    rw [escaped_cons]
    split
    next => simp [cutFrom, ih]
    next other => simp [cutFrom, other, ih]

/-- There is one more part than there are cuts. -/
theorem length_cutFrom (before : Char) (part line : List Char) :
    (cutFrom (before == '\\') part line).length =
      ((before :: line).zip line).countP (fun pair => pair.2 == '|' && pair.1 != '\\') + 1 := by
  induction line generalizing before part with
  | nil => rfl
  | cons c rest ih =>
    rw [cutFrom, List.zip_cons_cons, List.countP_cons, bne]
    by_cases cuts : (c == '|' && !(before == '\\')) = true
    · obtain rfl : c = '|' := beq_iff_eq.mp (Bool.and_eq_true_iff.mp cuts).1
      have after := ih '|' []
      rw [if_pos cuts, if_pos cuts, List.length_cons, ← after]
      rfl
    · rw [if_neg cuts, if_neg cuts, ih c, Nat.add_zero]

theorem length_cut (line : List Char) : (cut line).length = bars line + 1 := length_cutFrom ' ' [] line

/-- Each text with a blank on both sides and a pipe behind. -/
theorem intercalate_padded {texts : List (List Char)} (filled : texts ≠ []) :
    ' ' :: ([' ', '|', ' '].intercalate texts ++ [' ', '|']) =
      texts.flatMap fun text => ' ' :: (text ++ [' ', '|']) := by
  induction texts with
  | nil => exact absurd rfl filled
  | cons text rest ih =>
    cases rest with
    | nil => simp
    | cons next rest =>
      rw [List.flatMap_cons, ← ih (List.cons_ne_nil _ _), List.intercalate_cons_cons]
      simp

theorem toList_markdownLine {texts : List String} (filled : texts ≠ []) :
    (Export.markdownLine texts).toList =
      '|' :: (texts.map String.toList).flatMap fun text => ' ' :: (text ++ [' ', '|']) := by
  rw [← intercalate_padded (by simpa using filled)]
  simp [Export.markdownLine, String.toList_intercalate]

/-- A line of escaped texts is cut into them, each with its blanks. -/
theorem cut_markdownLine {texts : List String} (filled : texts ≠ []) :
    cut (Export.markdownLine (texts.map Export.escapeMarkdown)).toList =
      [] :: (texts.map fun text => ' ' :: (escaped (spaced text).toList ++ [' '])) ++ [[]] := by
  have cells (texts : List String) :
      cutFrom false [] ((texts.map fun text => (Export.escapeMarkdown text).toList).flatMap fun text =>
        ' ' :: (text ++ [' ', '|'])) =
      (texts.map fun text => ' ' :: (escaped (spaced text).toList ++ [' '])) ++ [[]] := by
    induction texts with
    | nil => rfl
    | cons text rest ih =>
      have first := cutFrom_escaped false [' '] (spaced text).toList
        ((rest.map fun text => (Export.escapeMarkdown text).toList).flatMap fun text =>
          ' ' :: (text ++ [' ', '|']))
      rw [ih] at first
      rw [List.map_cons, List.flatMap_cons, toList_escapeMarkdown]
      simpa [cutFrom] using first
  rw [toList_markdownLine (by simpa using filled), List.map_map]
  exact congrArg ([] :: ·) (cells texts)

theorem bars_markdownLine {texts : List String} (filled : texts ≠ []) :
    bars (Export.markdownLine (texts.map Export.escapeMarkdown)).toList = texts.length + 1 := by
  have parts := length_cut (Export.markdownLine (texts.map Export.escapeMarkdown)).toList
  rw [cut_markdownLine filled] at parts
  simpa using parts.symm

theorem readLine_markdownLine {texts : List String} (filled : texts ≠ []) :
    readLine (Export.markdownLine (texts.map Export.escapeMarkdown)).toList = some (texts.map spaced) := by
  have each (texts : List String) :
      ((texts.map fun text => ' ' :: (escaped (spaced text).toList ++ [' '])).mapM fun part =>
        (unpad? part).map fun text => String.ofList (unescape text)) = some (texts.map spaced) := by
    induction texts with
    | nil => rfl
    | cons text rest ih =>
      rw [List.map_cons, List.mapM_cons, ih, unpad?_padded, Option.map_some, unescape_escaped,
        String.ofList_toList]
      rfl
  simp [readLine, cut_markdownLine filled, each]

/-- A line of escaped texts is not broken. -/
theorem unbroken_markdownLine {texts : List String} (filled : texts ≠ []) :
    ∀ c ∈ (Export.markdownLine (texts.map Export.escapeMarkdown)).toList, (c == '\r' || c == '\n') = false := by
  have kept {c : Char} {text : String} (member : c ∈ (Export.escapeMarkdown text).toList) :
      (c == '\r' || c == '\n') = false := by
    rw [toList_escapeMarkdown] at member
    rcases mem_escaped member with rfl | among
    · rfl
    · simpa using mem_spaced among
  rw [toList_markdownLine (by simpa using filled), List.map_map]
  intro c member
  rcases List.mem_cons.mp member with rfl | member
  · rfl
  · obtain ⟨_, listed, here⟩ := List.mem_flatMap.mp member
    obtain ⟨text, -, rfl⟩ := List.mem_map.mp listed
    simp only [List.mem_cons, List.mem_append, List.not_mem_nil, or_false] at here
    rcases here with rfl | here | rfl | rfl
    · rfl
    · exact kept here
    · rfl
    · rfl

end Line

section Document

theorem lines_of_unbroken {written : List String} (filled : written ≠ [])
    (unbroken : ∀ line ∈ written, ∀ c ∈ line.toList, (c == '\r' || c == '\n') = false) :
    lines ("\n".intercalate written) = written.map String.toList := by
  rw [lines, String.toList_intercalate]
  induction written with
  | nil => exact absurd rfl filled
  | cons line rest ih =>
    have first := unbroken line List.mem_cons_self
    cases rest with
    | nil => simpa using List.splitOnP_eq_singleton first
    | cons next rest =>
      have later := ih (List.cons_ne_nil _ _) fun other member => unbroken other (List.mem_cons_of_mem line member)
      have document : "\n".toList.intercalate ((line :: next :: rest).map String.toList) =
          line.toList ++ '\n' :: "\n".toList.intercalate ((next :: rest).map String.toList) := by
        simp [List.intercalate_cons_cons]
      rw [document, List.splitOnP_append_cons_of_forall_mem first '\n' rfl, later]
      rfl

/-- The texts of a document with a table: the columns, a rule, and row by row the cells. -/
def grid (table : Table Value) : List (List String) :=
  table.columns :: (table.columns.map fun _ => "---") :: table.rows.map (Export.cells table)

theorem markdown_eq (table : Table Value) :
    Export.markdown table =
      "\n".intercalate ((grid table).map fun texts => Export.markdownLine (texts.map Export.escapeMarkdown)) := by
  have rule : Export.escapeMarkdown "---" = "---" := by rfl
  simp [Export.markdown, grid, Function.comp_def, rule]

theorem length_of_mem_grid {table : Table Value} {texts : List String} (member : texts ∈ grid table) :
    texts.length = table.columns.length := by
  simp only [grid, List.mem_cons, List.mem_map] at member
  rcases member with rfl | rfl | ⟨row, -, rfl⟩
  · rfl
  · exact List.length_map _
  · exact List.length_map _

theorem lines_markdown {table : Table Value} (columned : table.columns ≠ []) :
    lines (Export.markdown table) =
      (grid table).map fun texts => (Export.markdownLine (texts.map Export.escapeMarkdown)).toList := by
  rw [markdown_eq, lines_of_unbroken (by simp [grid]), List.map_map]
  · rfl
  · intro line member
    obtain ⟨texts, among, rfl⟩ := List.mem_map.mp member
    refine unbroken_markdownLine ?_
    rw [← List.length_pos_iff, length_of_mem_grid among]
    exact List.length_pos_iff.mpr columned

theorem mapM_readLine {written : List (List String)} (filled : ∀ texts ∈ written, texts ≠ []) :
    (written.map fun texts => (Export.markdownLine (texts.map Export.escapeMarkdown)).toList).mapM readLine =
      some (written.map (List.map spaced)) := by
  induction written with
  | nil => rfl
  | cons texts rest ih =>
    rw [List.map_cons, List.mapM_cons, readLine_markdownLine (filled texts List.mem_cons_self),
      ih fun other member => filled other (List.mem_cons_of_mem texts member)]
    rfl

/-- What a table with columns is written as has two lines more than the table has rows, and each line one bar more
than the table has columns. It is read as the columns, a rule, and row by row the texts that the cells show, each
with blanks instead of line breaks. -/
theorem read_markdown (table : Table Value) (columned : table.columns ≠ []) :
    (lines (Export.markdown table)).length = 2 + table.rows.length ∧
    (∀ line ∈ lines (Export.markdown table), bars line = table.columns.length + 1) ∧
    read (Export.markdown table) =
      some (table.columns.map spaced :: (table.columns.map fun _ => "---") ::
        table.rows.map fun row => table.columns.map fun column => spaced (Row.cell row column).template) := by
  have filled : ∀ texts ∈ grid table, texts ≠ [] := by
    intro texts member
    rw [← List.length_pos_iff, length_of_mem_grid member]
    exact List.length_pos_iff.mpr columned
  rw [read, lines_markdown columned]
  refine ⟨?_, ?_, ?_⟩
  · simp [grid]
    omega
  · intro line member
    obtain ⟨texts, among, rfl⟩ := List.mem_map.mp member
    rw [bars_markdownLine (filled texts among), length_of_mem_grid among]
  · have rule : spaced "---" = "---" := by rfl
    rw [mapM_readLine filled]
    simp [grid, rule, Function.comp_def, Export.cells, Export.cellText]

/-- Pipes, backslashes and line breaks of all kinds in a name and in cells, an empty cell and a missing one. -/
theorem read_markdown_of_marks :
    ["a|\\"] ≠ [] ∧
    read (Export.markdown (.plain ["a|\\"]
        [⟨[("a|\\", .text "\\|\r\n|\r\r\n")]⟩, ⟨[("a|\\", .text "")]⟩, ⟨[("a|\\", .text " \\")]⟩, ⟨[]⟩])) =
      some [["a|\\"], ["---"], ["\\| |  "], [""], [" \\"], [""]] :=
  ⟨List.cons_ne_nil _ _, (read_markdown _ (List.cons_ne_nil _ _)).2.2⟩

end Document

end TableScript.Markdown
