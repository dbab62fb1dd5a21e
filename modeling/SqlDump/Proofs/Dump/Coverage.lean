import SqlDump.Proofs.Dump.Section
import SqlDump.Proofs.Literal.Rows

/-!
# Values that reach the data section

The values of a row are stored one by one, each with the hint for its column, and a row ends
where its values or the hints do. There are as many hints as kinds or, without kinds, as
columns, so a result loses no value exactly where none of its rows is longer than that. A
result of a reply has a hint for each of its columns.

Main statements: `typedRows_eq_ok_iff` for the stored values, `dataSection_eq_ok_iff` for their
literals, and `typedRows_lossless_iff` for how many of them there are.
-/

namespace SqlDump

/-- Whether the second of two lists of rows has as many items in each row as the first. -/
def SameLengths {α β : Type} (rows : List (List α)) (others : List (List β)) : Prop :=
  List.Forall₂ (fun row other => other.length = row.length) rows others

/-- Rows that are cut to a width keep their lengths exactly where none is longer. -/
theorem sameLengths_iff_of_cut {α β : Type} {width : Nat} {rows : List (List α)}
    {others : List (List β)}
    (cut : List.Forall₂ (fun row other => other.length = min row.length width) rows others) :
    SameLengths rows others ↔ ∀ row ∈ rows, row.length ≤ width := by
  induction cut with
  | nil => exact iff_of_true .nil (by simp)
  | cons first _ hypothesis =>
      rw [SameLengths, List.forall₂_cons, first, List.forall_mem_cons, ← hypothesis]
      exact and_congr_left' (by omega)

namespace Server.Result

open Client (Raw)

/-- The hint for the values of a column, where there is one. -/
def hint (result : Result) (place : Nat) : Option Kind :=
  result.kinds[place]?.join

/-- Whether every value has a stored one, with the hint for its column. -/
def Converts (result : Result) (adapters : Adapters) : Prop :=
  ∀ row ∈ result.rows, ∀ (place : Nat) (raw : Raw), row[place]? = some raw →
    ∃ value, adapters.store (result.hint place) raw = .ok value

/-- Whether values are the stored ones of a row, from the first on and as far as there are
hints. -/
def Stores (result : Result) (adapters : Adapters) (row : List Raw) (values : List Value) : Prop :=
  values.length = min row.length result.hints.length ∧
    ∀ (place : Nat) (raw : Raw) (value : Value), row[place]? = some raw →
      values[place]? = some value → adapters.store (result.hint place) raw = .ok value

/-- A missing kind is a hint that says nothing. -/
theorem hint_of_getElem? {result : Result} {place : Nat} {kind : Option Kind}
    (found : result.hints[place]? = some kind) : result.hint place = kind := by
  rw [hints] at found
  split at found
  next none =>
    rw [hint, List.isEmpty_iff.mp none]
    exact (List.eq_of_mem_replicate (List.mem_of_getElem? found)).symm
  next => rw [hint, found, Option.join_some]

/-- The hints for a result of a reply are those of its columns. -/
theorem length_hints_ofReply (columns : List Column) (rows : List (List Raw))
    (affectedRows : Option Int) :
    (ofReply columns rows affectedRows).hints.length = columns.length := by
  cases columns with
  | nil => rfl
  | cons column others => simp [hints, ofReply]

/-- The values of a row are stored as far as the hints for them go. -/
theorem mapM_zip_eq_ok_iff {result : Result} {adapters : Adapters} {row : List Raw}
    {values : List Value} :
    ((row.zip result.hints).mapM fun (raw, kind) => adapters.store kind raw) = .ok values ↔
      result.Stores adapters row values := by
  rw [mapM_eq_ok_iff, forall₂_iff_getElem?, List.length_zip, eq_comm, Stores]
  refine and_congr_right fun length => ?_
  constructor
  · intro stored place raw value rawAt valueAt
    have inValues := (List.getElem?_eq_some_iff.mp valueAt).1
    have inHints : place < result.hints.length := by omega
    have kindAt := List.getElem?_eq_getElem inHints
    rw [hint_of_getElem? kindAt]
    exact stored place (raw, _) value (List.getElem?_zip_eq_some.mpr ⟨rawAt, kindAt⟩) valueAt
  · rintro stored place ⟨raw, kind⟩ value cellAt valueAt
    obtain ⟨rawAt, kindAt⟩ := List.getElem?_zip_eq_some.mp cellAt
    have converted := stored place raw value rawAt valueAt
    rwa [hint_of_getElem? kindAt] at converted

/-- The stored values of a result are those of its rows, one list for each. -/
theorem typedRows_eq_ok_iff {result : Result} {adapters : Adapters} {typed : List (List Value)} :
    result.typedRows adapters = .ok typed ↔
      List.Forall₂ (result.Stores adapters) result.rows typed := by
  rw [typedRows, mapM_eq_ok_iff]
  simp only [mapM_zip_eq_ok_iff]

/-- Where every value has a stored one, the rows have. -/
theorem exists_typedRows_eq_ok {result : Result} {adapters : Adapters}
    (converts : result.Converts adapters) : ∃ typed, result.typedRows adapters = .ok typed := by
  refine exists_mapM_eq_ok_of_forall fun row member => exists_mapM_eq_ok_of_forall ?_
  rintro ⟨raw, kind⟩ inRow
  obtain ⟨place, cellAt⟩ := List.mem_iff_getElem?.mp inRow
  obtain ⟨rawAt, kindAt⟩ := List.getElem?_zip_eq_some.mp cellAt
  have converted := converts row member place raw rawAt
  rwa [hint_of_getElem? kindAt] at converted

/-- Whether literals are those of the stored values of a row. -/
def Writes (result : Result) (row : List Raw) (literals : List Text) : Prop :=
  ∃ values, result.Stores .standard row values ∧ values.mapM Literal.encode = .ok literals

theorem Writes.length_eq {result : Result} {row : List Raw} {literals : List Text}
    (written : result.Writes row literals) :
    literals.length = min row.length result.hints.length := by
  obtain ⟨values, stored, made⟩ := written
  rw [length_of_mapM_eq_ok made, stored.1]

end Server.Result

namespace Dump

open Server

theorem rowTexts_eq_ok_iff {result : Result} {encoded : List Text} :
    rowTexts result = .ok encoded ↔
      ∃ typed, result.typedRows .standard = .ok typed ∧
        typed.mapM Literal.encodeRow = .ok encoded := by
  constructor
  · exact rowTexts_eq_ok
  · rintro ⟨typed, adapted, collected⟩
    simp only [rowTexts, adapted, collected, Except.mapError]

/-- The rows of a result are written exactly as the literals of their stored values. -/
theorem rowTexts_eq_ok_iff_writes {result : Result} {encoded : List Text} :
    rowTexts result = .ok encoded ↔
      ∃ literals, List.Forall₂ result.Writes result.rows literals ∧
        literals.map Literal.joinRow = encoded := by
  have joined (typed : List (List Value)) : typed.mapM Literal.encodeRow = .ok encoded ↔
      ∃ literals, List.Forall₂ (fun values written => values.mapM Literal.encode = .ok written)
        typed literals ∧ literals.map Literal.joinRow = encoded := by
    rw [funext Literal.encodeRow_eq, mapM_map_eq_map_mapM, map_eq_ok_iff]
    simp only [mapM_eq_ok_iff]
  have between (literals : List (List Text)) : List.Forall₂ result.Writes result.rows literals ↔
      ∃ typed, List.Forall₂ (result.Stores .standard) result.rows typed ∧
        List.Forall₂ (fun values written => values.mapM Literal.encode = .ok written)
          typed literals := by
    rw [exists_forall₂_between_iff]
    rfl
  simp only [rowTexts_eq_ok_iff, Result.typedRows_eq_ok_iff, joined, between]
  constructor
  · rintro ⟨typed, adapted, literals, made, same⟩
    exact ⟨literals, ⟨typed, adapted, made⟩, same⟩
  · rintro ⟨literals, ⟨typed, adapted, made⟩, same⟩
    exact ⟨typed, adapted, literals, made, same⟩

/-- The data of a table are written exactly as the literals of the stored values of its rows. -/
theorem dataSection_eq_ok_iff {formatter : Formatter} {table written : Text} {result : Result} :
    formatter.dataSection table result = .ok written ↔
      ∃ literals, List.Forall₂ result.Writes result.rows literals ∧
        formatter.dataText table (literals.map Literal.joinRow) = written := by
  rw [Formatter.dataSection_eq, map_eq_ok_iff]
  simp only [rowTexts_eq_ok_iff_writes]
  constructor
  · rintro ⟨encoded, ⟨literals, writes, rfl⟩, same⟩
    exact ⟨literals, writes, same⟩
  · rintro ⟨literals, writes, same⟩
    exact ⟨_, ⟨literals, writes, rfl⟩, same⟩

end Dump

namespace Server.Result

open Client (Raw)

/-- Whether there is a hint for every value of every row. -/
def HintsReach (result : Result) : Prop :=
  ∀ row ∈ result.rows, row.length ≤ result.hints.length

/-- A result of a reply has hints for all values of rows that are no longer than its columns. -/
theorem hintsReach_ofReply {columns : List Column} {rows : List (List Raw)}
    (fits : ∀ row ∈ rows, row.length ≤ columns.length) (affectedRows : Option Int) :
    (ofReply columns rows affectedRows).HintsReach := by
  intro row member
  rw [length_hints_ofReply]
  exact fits row member

/-- A result whose values all convert has as many rows of stored values as rows. Each value is
stored with the hint for its column or with none, and has one literal in the data of a table, up
to the end of the row or of the hints. So no value is lost exactly where the hints reach. -/
theorem typedRows_lossless_iff {result : Result} {adapters : Adapters}
    (converts : result.Converts adapters) :
    (∃ typed, result.typedRows adapters = .ok typed ∧
        List.Forall₂ (result.Stores adapters) result.rows typed ∧
        (SameLengths result.rows typed ↔ result.HintsReach)) ∧
      ∀ (formatter : Dump.Formatter) (table written : Text),
        formatter.dataSection table result = .ok written ↔
          ∃ literals, List.Forall₂ result.Writes result.rows literals ∧
            (SameLengths result.rows literals ↔ result.HintsReach) ∧
            formatter.dataText table (literals.map Literal.joinRow) = written := by
  constructor
  · obtain ⟨typed, adapted⟩ := exists_typedRows_eq_ok converts
    have stored := typedRows_eq_ok_iff.mp adapted
    exact ⟨typed, adapted, stored, sameLengths_iff_of_cut (stored.imp fun _ _ => And.left)⟩
  · intro formatter table written
    rw [Dump.dataSection_eq_ok_iff]
    refine exists_congr fun literals => and_congr_right fun writes => ?_
    have cut := sameLengths_iff_of_cut (writes.imp fun _ _ => Writes.length_eq)
    exact (and_iff_right cut).symm

/-- A row of one value, without a column and without a kind for it. -/
def unnamedRow : Result :=
  { rows := [[.integer 1]] }

theorem converts_unnamedRow : unnamedRow.Converts .standard := by
  intro row member place raw found
  cases List.mem_singleton.mp member
  cases place with
  | zero =>
      cases found
      exact ⟨_, rfl⟩
  | succ place => cases found

theorem typedRows_lossless_iff_unnamedRow :
    unnamedRow.Converts .standard ∧
      (∃ typed, unnamedRow.typedRows .standard = .ok typed ∧
        List.Forall₂ (unnamedRow.Stores .standard) unnamedRow.rows typed ∧
        (SameLengths unnamedRow.rows typed ↔ unnamedRow.HintsReach)) ∧
      ∀ (formatter : Dump.Formatter) (table written : Text),
        formatter.dataSection table unnamedRow = .ok written ↔
          ∃ literals, List.Forall₂ unnamedRow.Writes unnamedRow.rows literals ∧
            (SameLengths unnamedRow.rows literals ↔ unnamedRow.HintsReach) ∧
            formatter.dataText table (literals.map Literal.joinRow) = written :=
  ⟨converts_unnamedRow, typedRows_lossless_iff converts_unnamedRow⟩

/-- A value that converts is lost where it has no column. -/
theorem typedRows_loses_value :
    ¬∀ result : Result, result.Converts .standard →
      ∃ typed, result.typedRows .standard = .ok typed ∧ SameLengths result.rows typed := by
  intro lossless
  obtain ⟨typed, adapted, same⟩ := lossless unnamedRow converts_unnamedRow
  have cut : unnamedRow.typedRows .standard = .ok [[]] := rfl
  cases cut.symm.trans adapted
  cases same with
  | cons lengths _ => cases lengths

end Server.Result

end SqlDump
