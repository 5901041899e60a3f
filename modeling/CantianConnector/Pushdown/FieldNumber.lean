import CantianConnector.Convert.RowHead
import CantianConnector.Pushdown.Fill

/-!
# Column numbers in a pushed condition

`cond_fill_field` looks the column of an item up by the item's name, which is an alias below a
merged view, and numbers it by the columns before it that are not generated. The row encoder and
decoder leave out the virtual generated columns only, so for an item under the name of its column
the two numberings agree up to the first stored generated column.
-/

namespace CantianConnector.Pushdown

open CantianConnector.Convert

/-! ## Positions in a row -/

section

variable {table : Table} {columnId : Nat} {field : Field}

/-- The rows of the table hold the column at position `k`. -/
def PlacedAt (table : Table) (columnId k : Nat) : Prop :=
  (table.encodedColumns none)[k]? = some columnId

theorem nodup_encodedColumns (table : Table) : (table.encodedColumns none).Nodup := by
  unfold Table.encodedColumns
  apply List.Nodup.filter
  exact List.nodup_range

/-- A row holds a column at its Cantian number and nowhere else. -/
theorem placedAt_iff (hfield : table.fields[columnId]? = some field)
    (hStored : field.isVirtualGcol = false) {k : Nat} :
    PlacedAt table columnId k ↔ k = table.cantianId columnId := by
  have hAt := encodedColumns_getElem? hfield hStored
  unfold PlacedAt
  constructor
  · intro hk
    obtain ⟨hlt, -⟩ := List.getElem?_eq_some_iff.mp hk
    apply (List.getElem?_inj hlt (nodup_encodedColumns table)).mp
    rw [hk, hAt]
  · intro hk
    rw [hk, hAt]

/-- The Cantian number of a column is the number of columns before it that are not virtual. -/
theorem cantianId_eq_countP (hle : columnId ≤ table.fields.length) :
    table.cantianId columnId =
      (table.fields.take columnId).countP fun f => !f.isVirtualGcol := by
  have hcount := (table.fields.take columnId).length_eq_countP_add_countP Field.isVirtualGcol
  simp only [Bool.not_eq_true, Bool.decide_eq_false] at hcount
  rw [List.length_take, Nat.min_eq_left hle] at hcount
  unfold Table.cantianId calGcolCntsForUpdate
  omega

end

/-! ## The number in a condition -/

/-- What is left of a column's place without the generated columns before it. -/
theorem sub_countP_isGcol {fields : List Field} {columnId : Nat} (hle : columnId ≤ fields.length) :
    columnId - (fields.take columnId).countP Field.isGcol =
      (fields.take columnId).countP fun f => f.gcol == .none := by
  have hcount := (fields.take columnId).length_eq_countP_add_countP Field.isGcol
  rw [List.length_take, Nat.min_eq_left hle] at hcount
  have hnone : (fields.take columnId).countP (fun f => decide ¬ f.isGcol = true) =
      (fields.take columnId).countP fun f => f.gcol == .none := by
    congr 1
    funext f
    unfold Field.isGcol
    cases f.gcol <;> rfl
  omega

/-- The item is about a column of the table, under any name. -/
structure FieldItem.IsOf (table : Table) (item : FieldItem) (columnId : Nat) (field : Field) :
    Prop where
  column : table.fields[columnId]? = some field
  isGcol : item.isGcol = field.isGcol

/-- The item has the name of a column of the table. -/
def FieldItem.Names (env : FillEnv) (table : Table) (item : FieldItem) (columnId : Nat) : Prop :=
  ∃ field, table.fields[columnId]? = some field ∧
    env.caseFold field.fieldName = env.caseFold item.itemName

/-- The item stands for a column of the table. -/
structure FieldItem.StandsFor (env : FillEnv) (table : Table) (item : FieldItem) (columnId : Nat)
    (field : Field) : Prop where
  column : table.fields[columnId]? = some field
  itemName : env.caseFold field.fieldName = env.caseFold item.itemName
  isGcol : item.isGcol = field.isGcol

/-- The kinds of the columns that let the number of `named` be that of `columnId`. Up to
`columnId` only virtual columns follow `named`, and no stored one precedes; behind `columnId` as
many ordinary columns are counted too many as stored ones are left out before. -/
def NumberedAs (table : Table) (columnId named : Nat) : Prop :=
  if named ≤ columnId then
    (∀ f ∈ table.fields.take columnId, f.gcol ≠ .stored) ∧
      ∀ f ∈ (table.fields.take columnId).drop named, f.gcol ≠ .none
  else
    ((table.fields.take named).drop columnId).countP (fun f => f.gcol == .none) =
      (table.fields.take columnId).countP fun f => f.gcol == .stored

theorem numberedAs_self (table : Table) (columnId : Nat) :
    NumberedAs table columnId columnId ↔ ∀ f ∈ table.fields.take columnId, f.gcol ≠ .stored := by
  have hnil : (table.fields.take columnId).drop columnId = [] :=
    List.drop_eq_nil_of_le (List.length_take_le _ _)
  unfold NumberedAs
  rw [if_pos (le_refl _), hnil]
  simp

theorem countP_take_add_drop {α : Type} (p : α → Bool) (l : List α) {a b : Nat} (hle : a ≤ b) :
    (l.take a).countP p + ((l.take b).drop a).countP p = (l.take b).countP p := by
  have hsplit := List.take_append_drop a (l.take b)
  rw [List.take_take, Nat.min_eq_left hle] at hsplit
  rw [← List.countP_append, hsplit]

/-- The columns that are not virtual are the ordinary and the stored ones. -/
theorem countP_not_virtual (fields : List Field) :
    fields.countP (fun f => !f.isVirtualGcol) =
      fields.countP (fun f => f.gcol == .none) + fields.countP fun f => f.gcol == .stored := by
  induction fields with
  | nil => rfl
  | cons f rest ih =>
    have hcases : (if (!f.isVirtualGcol) = true then 1 else 0) =
        (if (f.gcol == .none) = true then 1 else 0) +
          if (f.gcol == .stored) = true then 1 else 0 := by
      unfold Field.isVirtualGcol
      cases f.gcol <;> rfl
    rw [List.countP_cons, List.countP_cons, List.countP_cons, ih, hcases]
    omega

/-- The columns that are not generated before one column are as many as those that are not virtual
before another. -/
theorem countP_ordinary_eq_iff (table : Table) (columnId named : Nat) :
    (table.fields.take named).countP (fun f => f.gcol == .none) =
        (table.fields.take columnId).countP (fun f => !f.isVirtualGcol) ↔
      NumberedAs table columnId named := by
  have hkinds := countP_not_virtual (table.fields.take columnId)
  unfold NumberedAs
  split
  · rename_i hle
    have hsplit := countP_take_add_drop (fun f : Field => f.gcol == .none) table.fields hle
    have hstored : (∀ f ∈ table.fields.take columnId, f.gcol ≠ .stored) ↔
        (table.fields.take columnId).countP (fun f => f.gcol == .stored) = 0 := by
      rw [List.countP_eq_zero]
      simp only [beq_iff_eq, ne_eq]
    have hnone : (∀ f ∈ (table.fields.take columnId).drop named, f.gcol ≠ .none) ↔
        ((table.fields.take columnId).drop named).countP (fun f => f.gcol == .none) = 0 := by
      rw [List.countP_eq_zero]
      simp only [beq_iff_eq, ne_eq]
    rw [hstored, hnone]
    omega
  · rename_i hgt
    have hsplit := countP_take_add_drop (fun f : Field => f.gcol == .none) table.fields
      (Nat.le_of_not_le hgt)
    omega

section

variable {env : FillEnv} {table : Table} {item : FieldItem} {columnId : Nat} {field : Field}

/-- Column names are distinct up to case, so the search by name finds the column. -/
theorem ctcGetColumnByField_eq (hNames : (table.fields.map fun f => env.caseFold f.fieldName).Nodup)
    (hName : item.Names env table columnId) :
    ctcGetColumnByField env table.fields item.itemName = some columnId := by
  obtain ⟨field, hcolumn, hitem⟩ := hName
  obtain ⟨hlt, hfield⟩ := List.getElem?_eq_some_iff.mp hcolumn
  unfold ctcGetColumnByField
  rw [List.findIdx?_eq_some_iff_getElem]
  refine ⟨hlt, ?_, ?_⟩
  · rw [hfield, hitem]
    exact beq_self_eq_true _
  · intro j hj heq
    have hname : env.caseFold (table.fields[j]).fieldName = env.caseFold field.fieldName := by
      rw [hitem]
      exact eq_of_beq heq
    have hij : j = columnId := by
      apply (List.getElem?_inj (by simpa using hj.trans hlt) hNames).mp
      rw [List.getElem?_map, List.getElem?_map, hcolumn,
        List.getElem?_eq_getElem (hj.trans hlt)]
      exact congrArg some hname
    omega

/-- A column that is found has the name. -/
theorem names_of_ctcGetColumnByField
    (hfound : ctcGetColumnByField env table.fields item.itemName = some columnId) :
    item.Names env table columnId := by
  unfold ctcGetColumnByField at hfound
  rw [List.findIdx?_eq_some_iff_getElem] at hfound
  obtain ⟨hlt, hname, -⟩ := hfound
  exact ⟨_, List.getElem?_eq_getElem hlt, eq_of_beq hname⟩

/-- Every column has an entry of the conversion table with a size, FLOAT under the name of
DOUBLE. -/
theorem condFillField_ok (hNames : (table.fields.map fun f => env.caseFold f.fieldName).Nodup)
    (hName : item.Names env table columnId) (noBackslash : Bool) :
    ∃ info, condFillField env table.fields item noBackslash = .ok info ∧
      info.fieldNo = (table.fields.take columnId).countP fun f => f.gcol == .none := by
  obtain ⟨field, hcolumn, -⟩ := id hName
  obtain ⟨mysqlInfo, hinfo, hbits⟩ : ∃ mysqlInfo, getAuxiliaryForFieldConvert field
      (if field.columnType.type = .float then .double else field.columnType.type) =
        some mysqlInfo ∧ mysqlInfo.cantianMapType ≠ .null := by
    by_cases hfloat : field.columnType.type = .float
    · rw [if_pos hfloat]
      refine ⟨_, rfl, ?_⟩
      intro hnull
      cases hnull
    · obtain ⟨ddl, haux⟩ := getAuxiliary_columnType field
      rw [if_neg hfloat]
      exact ⟨_, haux, auxBits_ne_null field.columnType⟩
  obtain ⟨size, hsize⟩ : ∃ size, ctcSetCondFieldSize mysqlInfo = .ok size := by
    unfold ctcSetCondFieldSize
    cases hmap : mysqlInfo.cantianMapType with
    | null => exact absurd hmap hbits
    | four => exact ⟨_, rfl⟩
    | eight => exact ⟨_, rfl⟩
    | var => exact ⟨_, rfl⟩
  have hle := (List.getElem?_eq_some_iff.mp hcolumn).1.le
  unfold condFillField
  simp only [ctcGetColumnByField_eq hNames hName, hcolumn, hinfo, hsize, result_bind_ok,
    result_pure]
  exact ⟨_, rfl, sub_countP_isGcol hle⟩

theorem condFillField_unnamed
    (hfound : ctcGetColumnByField env table.fields item.itemName = none) (noBackslash : Bool) :
    condFillField env table.fields item noBackslash = .error ctError := by
  unfold condFillField
  rw [hfound]

/-- An item has the name of one column at most. -/
theorem names_iff (hNames : (table.fields.map fun f => env.caseFold f.fieldName).Nodup)
    {named : Nat} (hfound : ctcGetColumnByField env table.fields item.itemName = some named)
    (other : Nat) : item.Names env table other ↔ other = named := by
  constructor
  · intro hOther
    rw [ctcGetColumnByField_eq hNames hOther] at hfound
    exact Option.some.inj hfound
  · rintro rfl
    exact names_of_ctcGetColumnByField hfound

/-- Virtual columns are not pushed. -/
theorem FieldItem.IsOf.isVirtualGcol (hItem : item.IsOf table columnId field)
    {parent : Functype} (hPushed : isSupportedField item parent = true) :
    field.isVirtualGcol = false := by
  cases hvirt : field.isVirtualGcol with
  | false => rfl
  | true =>
    have hgcol := Field.isGcol_of_virtual hvirt
    rw [← hItem.isGcol] at hgcol
    simp [isSupportedField, hgcol] at hPushed

/-- **When the two numberings agree.** An item gets a number exactly when it has the name of some
column. The number is the position of the item's own column in the rows, the number of columns
before it that are not virtual, exactly when the kinds of the columns let that named column have
this number; under the name of the own column, when no stored generated column stands before it
(`numberedAs_self`). -/
theorem condFillField_position_iff
    (hNames : (table.fields.map fun f => env.caseFold f.fieldName).Nodup)
    (hItem : item.IsOf table columnId field) {parent : Functype}
    (hPushed : isSupportedField item parent = true) (noBackslash : Bool) :
    ((∃ info, condFillField env table.fields item noBackslash = .ok info) ↔
        ∃ named, item.Names env table named) ∧
      ((∀ info, condFillField env table.fields item noBackslash = .ok info →
          PlacedAt table columnId info.fieldNo ∧
            info.fieldNo = (table.fields.take columnId).countP fun f => !f.isVirtualGcol) ↔
        ∀ named, item.Names env table named → NumberedAs table columnId named) := by
  have hle := (List.getElem?_eq_some_iff.mp hItem.column).1.le
  have hStored := hItem.isVirtualGcol hPushed
  cases hfound : ctcGetColumnByField env table.fields item.itemName with
  | none =>
    have hnone : ∀ named, ¬ item.Names env table named := by
      intro named hName
      rw [ctcGetColumnByField_eq hNames hName] at hfound
      cases hfound
    rw [condFillField_unnamed hfound]
    constructor
    · constructor
      · rintro ⟨info, hinfo⟩
        cases hinfo
      · rintro ⟨named, hName⟩
        exact absurd hName (hnone named)
    · constructor
      · intro _ named hName
        exact absurd hName (hnone named)
      · intro _ info hinfo
        cases hinfo
  | some named =>
    have hName := names_of_ctcGetColumnByField hfound
    obtain ⟨info, hinfo, hno⟩ := condFillField_ok hNames hName noBackslash
    refine ⟨⟨fun _ => ⟨named, hName⟩, fun _ => ⟨info, hinfo⟩⟩, ?_⟩
    rw [hinfo]
    simp only [Except.ok.injEq, forall_eq', names_iff hNames hfound, forall_eq]
    rw [placedAt_iff hItem.column hStored, cantianId_eq_countP hle, and_self, hno]
    exact countP_ordinary_eq_iff table columnId named

end

/-! ## Two tables -/

/-- A session that compares names as they are. -/
def FillEnv.plain : FillEnv :=
  { build := .release, prims := .none, caseFold := id, columnCs := id, timezone := 0
    sessionToUtc := id }

/-- The item `c2` of a comparison. -/
def thirdColumn : FieldItem :=
  { itemName := "c2", dataType := .long, realType := .long, cmpContext := .int, isGcol := false
    partOfPrefixkey := false, padChar := 32, csNumber := 63 }

/-- A column after an ordinary one and a generated one. -/
def threeColumns (gcol : Gcol) : Table :=
  ⟨[intColumn 0 .none, intColumn 1 gcol, intColumn 2 .none], 1⟩

theorem thirdColumn_isOf (gcol : Gcol) :
    thirdColumn.IsOf (threeColumns gcol) 2 (intColumn 2 .none) := ⟨rfl, rfl⟩

theorem thirdColumn_names (gcol : Gcol) : thirdColumn.Names .plain (threeColumns gcol) 2 :=
  ⟨_, rfl, rfl⟩

/-- After a virtual column the number is right. -/
theorem condFillField_position_virtual :
    ∃ info, condFillField .plain (threeColumns .virtual).fields thirdColumn false = .ok info ∧
      info.fieldNo = 1 ∧ PlacedAt (threeColumns .virtual) 2 info.fieldNo := by
  obtain ⟨hok, hiff⟩ := @condFillField_position_iff .plain (threeColumns .virtual)
    thirdColumn 2 _ (by decide) (thirdColumn_isOf .virtual) .eq (by decide) false
  obtain ⟨info, hinfo⟩ := hok.mpr ⟨2, thirdColumn_names .virtual⟩
  have hplaced := hiff.mpr (by
    intro named hName
    have hfound := ctcGetColumnByField_eq (by decide) hName
    rw [ctcGetColumnByField_eq (by decide) (thirdColumn_names .virtual)] at hfound
    rw [← Option.some.inj hfound, numberedAs_self]
    decide) info hinfo
  exact ⟨info, hinfo, hplaced.2, hplaced.1⟩

/-- After a stored generated column the number is that of the generated column, and under the name
of another column it is the number of that column. -/
theorem condFillField_position_stored :
    (thirdColumn.IsOf (threeColumns .stored) 2 (intColumn 2 .none) ∧
      thirdColumn.Names .plain (threeColumns .stored) 2 ∧
      isSupportedField thirdColumn .eq = true ∧
      ∃ info, condFillField .plain (threeColumns .stored).fields thirdColumn false = .ok info ∧
        PlacedAt (threeColumns .stored) 1 info.fieldNo ∧
          ¬ PlacedAt (threeColumns .stored) 2 info.fieldNo ∧
          info.fieldNo ≠ ((threeColumns .stored).fields.take 2).countP
            (fun f => !f.isVirtualGcol)) ∧
    thirdColumn.IsOf (threeColumns .none) 1 (intColumn 1 .none) ∧
      ∃ info, condFillField .plain (threeColumns .none).fields thirdColumn false = .ok info ∧
        PlacedAt (threeColumns .none) 2 info.fieldNo ∧
          ¬ PlacedAt (threeColumns .none) 1 info.fieldNo := by
  refine ⟨⟨thirdColumn_isOf .stored, thirdColumn_names .stored, by decide, _, rfl, ?_⟩,
    ⟨rfl, rfl⟩, _, rfl, ?_⟩
  · unfold PlacedAt
    decide
  · unfold PlacedAt
    decide

end CantianConnector.Pushdown
