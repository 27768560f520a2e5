import Rulebook.Proofs.FirstSeen
import Rulebook.Proofs.Json.Canonical
import Rulebook.Proofs.Row.Codec

/-!
# Rows as ordered maps

To build a row from cells, or to read one from a JSON object, is to write to an ordered map: the
columns are the names in the order in which they first occur (`Row.columns_ofCells`), and a column
holds what was given to it last (`Row.get?_ofCells`). A field is resolved in two steps, first the
column that it stands for and then the cell of that column; the cell that is found is that of the
first column whose name differs at most in case (`Row.lookup?_eq_find?`). `Row.ordered_map` puts
these together.
-/

set_option autoImplicit false

namespace Rulebook

open Text

/-- What is read entry by entry is what each entry stands for. -/
theorem eq_map_of_mapM_eq_some {α β : Type} {read : α → Option β} {meaning : α → β}
    (h : ∀ x y, read x = some y → y = meaning x) {xs : List α} {ys : List β}
    (hread : xs.mapM read = some ys) : ys = xs.map meaning := by
  induction xs generalizing ys with
  | nil =>
      obtain rfl := Option.some.inj hread
      rfl
  | cons x xs ih =>
      rw [List.mapM_cons] at hread
      obtain ⟨y, hy, hread⟩ := Option.bind_eq_some_iff.1 hread
      obtain ⟨rest, hrest, hread⟩ := Option.bind_eq_some_iff.1 hread
      obtain rfl := Option.some.inj hread
      rw [List.map_cons, h x y hy, ih hrest]

namespace Row

variable {row : Row} {field : String}

/-! ## Rows that are built cell by cell -/

/-- What is given to a column last. -/
def lastCell? (cells : List (String × String)) (column : String) : Option String :=
  (cells.reverse.find? fun cell => cell.1 = column).map Prod.snd

theorem columns_insert (row : Row) (column v : String) : (row.insert column v).columns =
    if column ∈ row.columns then row.columns else row.columns ++ [column] :=
  map_fst_putCell v row.cells

theorem ofCells_concat (cells : List (String × String)) (cell : String × String) :
    ofCells (cells ++ [cell]) = (ofCells cells).insert cell.1 cell.2 :=
  List.foldl_concat _ _ _ _

/-- The columns are the names that are given, each where it occurs first. -/
theorem columns_ofCells (cells : List (String × String)) :
    (ofCells cells).columns = (cells.map Prod.fst).eraseDups := by
  -- cells are taken from the end, where they are written
  induction cells using List.reverseRecOn with
  | nil => rfl
  | append_singleton cells cell ih =>
      rw [ofCells_concat, columns_insert, ih, List.map_append, List.map_singleton, eraseDups_concat]
      simp only [List.mem_eraseDups]

theorem lastCell?_concat (cells : List (String × String)) (cell : String × String)
    (column : String) : lastCell? (cells ++ [cell]) column =
      if cell.1 = column then some cell.2 else lastCell? cells column := by
  rw [lastCell?, List.reverse_append, List.reverse_singleton, List.singleton_append,
    List.find?_cons]
  by_cases h : cell.1 = column
  · simp [h]
  · simp [h, lastCell?]

/-- A column holds what was given to it last, and there is none to which nothing was given. -/
theorem get?_ofCells (cells : List (String × String)) (column : String) :
    (ofCells cells).get? column = lastCell? cells column := by
  induction cells using List.reverseRecOn with
  | nil => rfl
  | append_singleton cells cell ih =>
      rw [ofCells_concat, lastCell?_concat, ← ih]
      split
      · rename_i h
        rw [← h, get?_insert_self]
      · rename_i h
        exact get?_insert_of_ne h cell.2

/-! ## Fields -/

/-- A field stands for the cell of the first column whose name differs from it at most in case. -/
theorem lookup?_eq_find? (row : Row) (field : String) :
    row.lookup? field = (row.cells.find? fun cell => sameColumn cell.1 field).map Prod.snd := by
  rw [lookup?, Row.column, get?]
  cases hfound : row.cells.find? fun cell => sameColumn cell.1 field with
  | none =>
      -- a column with the name of the field itself would have been found
      have hnone : ∀ cell ∈ row.cells, ¬ cell.1 = field := by
        rintro cell hcell rfl
        exact List.find?_eq_none.1 hfound cell hcell (sameColumn_self cell.1)
      have hget : (row.cells.find? fun cell => cell.1 = field) = none :=
        List.find?_eq_none.2 fun cell hcell => by simpa using hnone cell hcell
      simp [hget]
  | some cell =>
      obtain ⟨hsame, before, after, hcells, hbefore⟩ := List.find?_eq_some_iff_append.1 hfound
      -- no cell before the one that is found has its name
      have hother : ∀ other ∈ before, ¬ other.1 = cell.1 := by
        intro other hmem hname
        have hnot := hbefore other hmem
        rw [hname, hsame] at hnot
        cases hnot
      have hget : (row.cells.find? fun other => other.1 = cell.1) = some cell :=
        List.find?_eq_some_iff_append.2 ⟨by simp, before, after, hcells, fun other hmem => by
          simpa using hother other hmem⟩
      simp [hget]

/-- A field stands for nothing exactly if it differs from every column in more than case. -/
theorem lookup?_eq_none_iff :
    row.lookup? field = none ↔ ∀ column ∈ row.columns, sameColumn column field = false := by
  rw [lookup?_eq_find?, Option.map_eq_none_iff, List.find?_eq_none, columns, List.forall_mem_map]
  simp only [Bool.not_eq_true]

/-! ## Rows in JSON -/

/-- The text that a JSON value stands for in a cell. -/
def cellText : Json → String
  | .null => ""
  | .string s => s
  | j => j.canonical.compact

theorem eq_cellText {j : Json} {cell : String} (h : cellOfJson? j = some cell) :
    cell = cellText j := by
  cases j with
  | null => exact (Option.some.inj h).symm
  | string s => exact (Option.some.inj h).symm
  | _ =>
      -- all other values have to be readable
      simp only [cellOfJson?, Option.ite_none_right_eq_some, Option.some.injEq] at h
      exact h.2.symm

/-- A row is read from an object only, and it is made of the texts of the members. -/
theorem exists_members_of_ofJson? {j : Json} (h : ofJson? j = some row) : ∃ members,
    j = .object members ∧ row = ofCells (members.map fun m => (m.1, cellText m.2)) := by
  cases j with
  | object members =>
      obtain ⟨cells, hcells, rfl⟩ := Option.map_eq_some_iff.1 h
      refine ⟨members, rfl, congrArg ofCells (eq_map_of_mapM_eq_some ?_ hcells)⟩
      intro m cell hcell
      obtain ⟨text, htext, rfl⟩ := Option.map_eq_some_iff.1 hcell
      rw [eq_cellText htext]
  | _ => cases h

theorem lastCell?_members (members : List (String × Json)) (column : String) :
    lastCell? (members.map fun m => (m.1, cellText m.2)) column =
      (Json.lastValue? members column).map cellText := by
  rw [lastCell?, ← List.map_reverse, List.find?_map, Json.lastValue?, Option.map_map,
    Option.map_map]
  rfl

/-- A row without repeated columns is read from its own text, compact or indented. -/
theorem read?_toJson (h : row.columns.Nodup) :
    (Json.read? row.toJson.compact).bind ofJson? = some row ∧
      (Json.read? row.toJson.pretty).bind ofJson? = some row := by
  have hwritable : Json.Writable 0 row.toJson := writable_toJson (by decide) row
  rw [Json.read?_compact hwritable, Json.read?_pretty hwritable]
  exact ⟨ofJson?_toJson h, ofJson?_toJson h⟩

/-- **A row is an ordered map.** Built from cells, it has the names that are given as columns, in the
order in which they first occur, and each of them holds what was given to it last. A text from which
a row is read holds an object, whose members are such cells: a string counts as it is, null as the
empty text, any other value as its compact text. The text of this row is read as the row again.
Whatever the row, a field stands for the cell of the first column that has the same name character
by character in lower case, and for none if there is no such column. -/
theorem ordered_map :
    (∀ cells : List (String × String),
      (ofCells cells).columns = (cells.map Prod.fst).eraseDups ∧
        ∀ column, (ofCells cells).get? column = lastCell? cells column) ∧
    (∀ (text : String) (row : Row), (Json.read? text).bind ofJson? = some row →
      ∃ members, Json.read? text = some (.object members) ∧
        row.columns = (members.map Prod.fst).eraseDups ∧
        (∀ column, row.get? column = (Json.lastValue? members column).map cellText) ∧
        (Json.read? row.toJson.compact).bind ofJson? = some row ∧
        (Json.read? row.toJson.pretty).bind ofJson? = some row) ∧
    ∀ (row : Row) (field : String),
      row.lookup? field = (row.cells.find? fun cell =>
          foldChars cell.1.toList = foldChars field.toList).map Prod.snd ∧
        (row.lookup? field = none ↔
          ∀ column ∈ row.columns, foldChars column.toList ≠ foldChars field.toList) := by
  refine ⟨fun cells => ⟨columns_ofCells cells, get?_ofCells cells⟩, ?_, fun row field => ⟨?_, ?_⟩⟩
  · intro text row hread
    obtain ⟨j, hj, hrow⟩ := Option.bind_eq_some_iff.1 hread
    have hback := read?_toJson (nodup_of_ofJson? hrow)
    obtain ⟨members, rfl, rfl⟩ := exists_members_of_ofJson? hrow
    refine ⟨members, hj, ?_, ?_, hback⟩
    · rw [columns_ofCells, List.map_map]
      rfl
    · intro column
      rw [get?_ofCells, lastCell?_members]
  · exact lookup?_eq_find? row field
  · rw [lookup?_eq_none_iff]
    simp only [sameColumn, decide_eq_false_iff_not, ne_eq]

/-- An object with a name that comes twice, the second time with an object in it. -/
theorem ordered_map_repeated :
    (Json.read? "\x7b\"Zone\":\"A\",\"Sum\":1.50,\"Zone\":\x7b\"b\":[null],\"a\":1\x7d\x7d").bind
        ofJson? = some ⟨[("Zone", "\x7b\"a\":1,\"b\":[null]\x7d"), ("Sum", "1.5")]⟩ ∧
      (Json.read? (toJson ⟨[("Zone", "\x7b\"a\":1,\"b\":[null]\x7d"), ("Sum", "1.5")]⟩).compact).bind
        ofJson? = some ⟨[("Zone", "\x7b\"a\":1,\"b\":[null]\x7d"), ("Sum", "1.5")]⟩ := by
  have hread : (Json.read?
      "\x7b\"Zone\":\"A\",\"Sum\":1.50,\"Zone\":\x7b\"b\":[null],\"a\":1\x7d\x7d").bind ofJson? =
        some ⟨[("Zone", "\x7b\"a\":1,\"b\":[null]\x7d"), ("Sum", "1.5")]⟩ := by
    decide +kernel
  obtain ⟨-, hrows, -⟩ := ordered_map
  obtain ⟨-, -, -, -, hback, -⟩ := hrows _ _ hread
  exact ⟨hread, hback⟩

end Row

end Rulebook
