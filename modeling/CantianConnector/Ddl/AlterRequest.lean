import CantianConnector.Convert.Result
import CantianConnector.Ddl.CreateKeys
import CantianConnector.Ddl.DefaultText
import CantianConnector.Lib.Compaction
import CantianConnector.Lib.DigitText
import CantianConnector.Lib.Renaming

/-!
# The lists of an ALTER TABLE request

`fill_alter_table_req` sends the changes of a statement as lists. The engine applies the entries of
the alter list in turn, so a column is renamed by two entries, over a temporary name
(`fillAlterList4alterTable_renames`). The drop list and the create list get as many entries as the
statement has, and a loop skips some of them and makes the list shorter.
-/

namespace CantianConnector.Ddl

open CantianConnector.Convert

/-! ## The alter list -/

/-- `Alter_column`, with the `name` of the column and, for a renaming, its `m_new_name`. -/
inductive AlterColumn where
  | setDefault (name : SqlText)
  | dropDefault (name : SqlText)
  | setColumnVisible (name : SqlText)
  | setColumnInvisible (name : SqlText)
  | renameColumn (name newName : SqlText)
deriving DecidableEq, Repr

def AlterColumn.name : AlterColumn → SqlText
  | .setDefault name | .dropDefault name | .setColumnVisible name | .setColumnInvisible name
  | .renameColumn name _ => name

def AlterColumn.newName : AlterColumn → Option SqlText
  | .renameColumn _ newName => some newName
  | _ => none

/-- `ctc_alter_column_type`. -/
inductive CtcAlterColumnType where
  | setDefault
  | dropDefault
  | renameColumn
  | setColumnVisible
  | setColumnInvisible
deriving DecidableEq, Repr

/-- `ctc_ddl_get_alter_column_type_from_mysql_type`. -/
def ctcDdlGetAlterColumnTypeFromMysqlType : AlterColumn → CtcAlterColumnType
  | .setDefault _ => .setDefault
  | .dropDefault _ => .dropDefault
  | .renameColumn _ _ => .renameColumn
  | .setColumnVisible _ => .setColumnVisible
  | .setColumnInvisible _ => .setColumnInvisible

/-- `TcDb__CtcDDLAlterTableAlterColumn`. Its `init` sets the numbers to zero, and zero is
`CTC_ALTER_COLUMN_SET_DEFAULT`. -/
structure ReqAlterColumn where
  name : Option SqlText
  newName : Option SqlText
  type : CtcAlterColumnType
  hasNoDefault : Bool
  isDefaultNull : Bool
deriving DecidableEq, Repr

/-- `tc_db__ctc_ddlalter_table_alter_column__init`. -/
def ReqAlterColumn.init : ReqAlterColumn := ⟨none, none, .setDefault, false, false⟩

/-- What is asked of a `dd::Column`. -/
structure DdColumn where
  name : SqlText
  hasNoDefault : Bool
  isDefaultValueNull : Bool
  isVirtual : Bool
deriving DecidableEq, Repr

/-- `CTC_MAX_COLUMN_LEN`. -/
def ctcMaxColumnLen : Nat := 65

/-- The text of `%d` for a `uint32_t`. -/
def percentD (value : BitVec 32) : SqlText :=
  if value.toInt < 0 then '-' :: Nat.toDigits 10 value.toInt.natAbs
  else Nat.toDigits 10 value.toInt.natAbs

/-- The text of `TMPCOLUMN4CANTIAN_%d_%d`. -/
def tmpColumn (copyRmIndex thdId : BitVec 32) : SqlText :=
  "TMPCOLUMN4CANTIAN_".toList ++ percentD copyRmIndex ++ '_' :: percentD thdId

/-- Whether `change_type()` is `RENAME_COLUMN`. -/
def AlterColumn.isRename : AlterColumn → Bool
  | .renameColumn _ _ => true
  | _ => false

/-- `rename_cols` of `init_ctc_ddl_alter_table_def`. -/
def renameCols (alterList : List AlterColumn) : Nat := alterList.countP AlterColumn.isRename

/-- `n_alter_list` of `init_ctc_ddl_alter_table_def`. -/
def nAlterList (alterList : List AlterColumn) : Nat :=
  alterList.length % 2 ^ 32 + renameCols alterList

/-- The variables of the loop over the alter list. -/
structure AlterLoop where
  list : List ReqAlterColumn
  copyRmNum : Nat
  mem : DdlMem

section

variable (newTableDef : List DdColumn) (alterList : List AlterColumn) (thdId : BitVec 32)

/-- One round of the loop of `fill_alter_list_4alter_table`. It does not check what
`ctc_ddl_alloc_mem` and `get_column` return. -/
def fillAlterColumn (i : Nat) (alterColumn : AlterColumn) (st : AlterLoop) : Result AlterLoop :=
  match st.list[i]? with
  | none => .error .undefined
  | some reqAlter =>
    let reqAlter := { reqAlter with
      name := some alterColumn.name
      newName := alterColumn.newName
      type := ctcDdlGetAlterColumnTypeFromMysqlType alterColumn }
    match alterColumn with
    | .renameColumn _ newName =>
      let copyRmIndex := nAlterList alterList - renameCols alterList + st.copyRmNum
      match ctcDdlAllocMem ctcMaxColumnLen st.mem, st.list[copyRmIndex % 2 ^ 32]? with
      | some (_, mem), some copy =>
        let temp := tmpColumn (BitVec.ofNat 32 copyRmIndex) thdId
        let list := st.list.set i { reqAlter with newName := some temp }
        .ok { list := list.set (copyRmIndex % 2 ^ 32) { copy with
                name := some temp
                newName := some newName
                type := reqAlter.type }
              copyRmNum := st.copyRmNum + 1
              mem := mem }
      | _, _ => .error .undefined
    | _ =>
      match newTableDef.find? fun col => col.name = alterColumn.name with
      | none => .error .undefined
      | some newCol =>
        .ok { st with list := st.list.set i { reqAlter with
                hasNoDefault := newCol.hasNoDefault
                isDefaultNull := newCol.isDefaultValueNull } }

/-- The loop, from the entry `i` on. -/
def fillAlterLoop : Nat → List AlterColumn → AlterLoop → Result AlterLoop
  | _, [], st => .ok st
  | i, alterColumn :: rest, st => do
    let st ← fillAlterColumn newTableDef alterList thdId i alterColumn st
    fillAlterLoop (i + 1) rest st

/-- `fill_alter_list_4alter_table`, over the list that `init_alter_list_4alter_table` has made. -/
def fillAlterList4alterTable (mem : DdlMem) : Result AlterLoop :=
  fillAlterLoop newTableDef alterList thdId 0
    (alterList.take (nAlterList alterList - renameCols alterList))
    ⟨List.replicate (nAlterList alterList) .init, 0, mem⟩

end

/-! ### Temporary names -/

theorem natAbs_toInt_lt (value : BitVec 32) : value.toInt.natAbs < 10 ^ 10 := by
  have hlt := BitVec.toInt_lt (x := value)
  have hle := BitVec.le_toInt (x := value)
  omega

theorem length_percentD_le (value : BitVec 32) : (percentD value).length ≤ 11 := by
  have hdigits : (Nat.toDigits 10 value.toInt.natAbs).length ≤ 10 := by
    rw [Nat.length_toDigits_le_iff (by decide) (by decide)]
    exact natAbs_toInt_lt value
  unfold percentD
  split
  · exact Nat.succ_le_succ hdigits
  · exact Nat.le_succ_of_le hdigits

/-- The text and its terminator fit in the block. -/
theorem length_tmpColumn_lt (copyRmIndex thdId : BitVec 32) :
    (tmpColumn copyRmIndex thdId).length < ctcMaxColumnLen := by
  have hindex := length_percentD_le copyRmIndex
  have hthd := length_percentD_le thdId
  have hhead : "TMPCOLUMN4CANTIAN_".toList.length ≤ 18 := by simp
  unfold tmpColumn
  simp only [List.length_append, List.length_cons]
  calc "TMPCOLUMN4CANTIAN_".toList.length + (percentD copyRmIndex).length +
        ((percentD thdId).length + 1)
      ≤ 18 + 11 + (11 + 1) := Nat.add_le_add (Nat.add_le_add hhead hindex) (Nat.succ_le_succ hthd)
    _ < ctcMaxColumnLen := by decide

theorem minus_not_mem_toDigits (n : Nat) : '-' ∉ Nat.toDigits 10 n := by
  intro hmem
  have hdigit := DigitText.digits_toDigits n '-' hmem
  exact absurd hdigit (by decide)

theorem percentD_injective : Function.Injective percentD := by
  intro a b h
  have habs : ∀ m n : Nat, Nat.toDigits 10 m = Nat.toDigits 10 n → m = n := by
    intro m n hdigits
    rw [← Nat.ofDigitChars_ten_toDigits (n := m), hdigits, Nat.ofDigitChars_ten_toDigits]
  apply BitVec.eq_of_toInt_eq
  unfold percentD at h
  split at h
  · split at h
    · have := habs _ _ (List.cons.inj h).2
      omega
    · exact absurd (h ▸ List.mem_cons_self) (minus_not_mem_toDigits _)
  · split at h
    · exact absurd (h ▸ List.mem_cons_self) (minus_not_mem_toDigits _)
    · have := habs _ _ h
      omega

theorem tmpColumn_inj {i j thdId : BitVec 32} (h : tmpColumn i thdId = tmpColumn j thdId) :
    i = j := by
  unfold tmpColumn at h
  rw [List.append_assoc, List.append_assoc] at h
  have htail := List.append_cancel_left h
  rw [List.append_cancel_right_eq] at htail
  exact percentD_injective htail

/-- The temporary names of `count` renamings. -/
def temps (thdId : BitVec 32) (first count : Nat) : List SqlText :=
  (List.range' first count).map fun j => tmpColumn (BitVec.ofNat 32 j) thdId

@[simp] theorem length_temps (thdId : BitVec 32) (first count : Nat) :
    (temps thdId first count).length = count := by
  rw [temps, List.length_map, List.length_range']

theorem temps_succ (thdId : BitVec 32) (first count : Nat) :
    temps thdId first (count + 1) =
      tmpColumn (BitVec.ofNat 32 first) thdId :: temps thdId (first + 1) count := rfl

theorem temps_nodup {thdId : BitVec 32} {first count : Nat} (h : first + count ≤ 2 ^ 32) :
    (temps thdId first count).Nodup := by
  apply List.Nodup.map_on _ List.nodup_range'
  intro i hi j hj heq
  rw [List.mem_range'_1] at hi hj
  have htoNat := congrArg BitVec.toNat (tmpColumn_inj heq)
  rwa [BitVec.toNat_ofNat, BitVec.toNat_ofNat, Nat.mod_eq_of_lt (by omega),
    Nat.mod_eq_of_lt (by omega)] at htoNat

/-! ### The loop -/

/-- The renamings of a statement. -/
def renames (alterList : List AlterColumn) : List (SqlText × SqlText) :=
  alterList.filterMap fun alterColumn => alterColumn.newName.map (alterColumn.name, ·)

/-- The renamings of a request. -/
def renamesOf (list : List ReqAlterColumn) : List (SqlText × SqlText) :=
  (list.filter fun entry => entry.type = .renameColumn).filterMap fun entry =>
    entry.name.bind fun name => entry.newName.map (name, ·)

section

variable (newTableDef : List DdColumn)

/-- The entry of a change that renames nothing. -/
def changeEntry (alterColumn : AlterColumn) : ReqAlterColumn :=
  let newCol := newTableDef.find? fun col => col.name = alterColumn.name
  { name := some alterColumn.name
    newName := none
    type := ctcDdlGetAlterColumnTypeFromMysqlType alterColumn
    hasNoDefault := newCol.elim false (·.hasNoDefault)
    isDefaultNull := newCol.elim false (·.isDefaultValueNull) }

/-- An entry that renames a column. -/
def renameEntry (change : SqlText × SqlText) : ReqAlterColumn :=
  ⟨some change.1, some change.2, .renameColumn, false, false⟩

/-- The entries of a list of changes, with the temporary names from `first` on. -/
def firstEntries (thdId : BitVec 32) : Nat → List AlterColumn → List ReqAlterColumn
  | _, [] => []
  | first, .renameColumn name _ :: rest =>
    renameEntry (name, tmpColumn (BitVec.ofNat 32 first) thdId) ::
      firstEntries thdId (first + 1) rest
  | first, alterColumn :: rest => changeEntry newTableDef alterColumn :: firstEntries thdId first rest

/-- The copies behind them. -/
def copyEntries (thdId : BitVec 32) (first : Nat) (alterList : List AlterColumn) :
    List ReqAlterColumn :=
  ((renames alterList).zip (temps thdId first (renameCols alterList))).map fun q =>
    renameEntry (q.2, q.1.2)

end

theorem renameCols_rename (name newName : SqlText) (rest : List AlterColumn) :
    renameCols (.renameColumn name newName :: rest) = renameCols rest + 1 :=
  List.countP_cons_of_pos rfl

theorem renameCols_change {alterColumn : AlterColumn} (rest : List AlterColumn)
    (h : alterColumn.isRename = false) : renameCols (alterColumn :: rest) = renameCols rest := by
  apply List.countP_cons_of_neg
  rw [h]
  decide

theorem length_renames (alterList : List AlterColumn) :
    (renames alterList).length = renameCols alterList := by
  induction alterList with
  | nil => rfl
  | cons alterColumn rest ih =>
    cases alterColumn with
    | renameColumn name newName =>
      rw [renameCols_rename, ← ih]
      rfl
    | _ =>
      rw [renameCols_change rest rfl]
      exact ih

theorem set_middle {α : Type} (before after : List α) (x y : α) {i : Nat} (h : before.length = i) :
    (before ++ x :: after).set i y = before ++ y :: after := by
  rw [← h, List.set_append_right _ _ (Nat.le_refl _), Nat.sub_self]
  rfl

theorem get_middle {α : Type} (before after : List α) (x : α) {i : Nat} (h : before.length = i) :
    (before ++ x :: after)[i]? = some x := by
  rw [← h, List.getElem?_append_right (Nat.le_refl _), Nat.sub_self]
  rfl

/-- What the loop starts a round with: the entries behind the ones that are filled are blank. -/
def alterLoop (done copies : List ReqAlterColumn) (rest : List AlterColumn) (mem : DdlMem) :
    AlterLoop :=
  ⟨done ++ (List.replicate rest.length .init ++
    (copies ++ List.replicate (renameCols rest) .init)), copies.length, mem⟩

section

variable {newTableDef : List DdColumn} {alterList : List AlterColumn} {thdId : BitVec 32}

theorem nAlterList_eq (hlen : 2 * alterList.length < 2 ^ 32) :
    nAlterList alterList = alterList.length + renameCols alterList := by
  rw [nAlterList, Nat.mod_eq_of_lt (by omega)]

/-- A change that renames nothing fills its own entry. -/
theorem fillAlterColumn_change {done copies : List ReqAlterColumn} {rest : List AlterColumn}
    {mem : DdlMem} {alterColumn : AlterColumn} (hchange : alterColumn.isRename = false)
    (hfound : ∃ col ∈ newTableDef, col.name = alterColumn.name) :
    fillAlterColumn newTableDef alterList thdId done.length alterColumn
        (alterLoop done copies (alterColumn :: rest) mem) =
      .ok (alterLoop (done ++ [changeEntry newTableDef alterColumn]) copies rest mem) := by
  obtain ⟨newCol, hcol⟩ : ∃ newCol,
      (newTableDef.find? fun col => col.name = alterColumn.name) = some newCol := by
    obtain ⟨col, hmem, hname⟩ := hfound
    apply Option.isSome_iff_exists.mp
    exact List.find?_isSome.mpr ⟨col, hmem, decide_eq_true hname⟩
  have hcols := renameCols_change rest hchange
  have hget := get_middle done (List.replicate rest.length ReqAlterColumn.init ++
    (copies ++ List.replicate (renameCols rest) .init)) .init rfl
  have hset := fun y => set_middle done (List.replicate rest.length ReqAlterColumn.init ++
    (copies ++ List.replicate (renameCols rest) .init)) .init y rfl
  unfold fillAlterColumn alterLoop
  simp only [List.length_cons, List.replicate_succ, List.cons_append, hcols, hget]
  cases alterColumn with
  | renameColumn name newName => cases hchange
  | _ =>
    simp only [hcol, hset, List.append_assoc, List.cons_append, List.nil_append, changeEntry,
      Option.elim_some]
    rfl

/-- A renaming fills its own entry and the next one behind the list. -/
theorem fillAlterColumn_rename {done copies : List ReqAlterColumn} {rest : List AlterColumn}
    {mem : DdlMem} {name newName : SqlText} (hlen : 2 * alterList.length < 2 ^ 32)
    (hdone : done.length + (rest.length + 1) = alterList.length)
    (hcopies : copies.length + (renameCols rest + 1) = renameCols alterList)
    (hmem : mem.memStart + ctcMaxColumnLen < mem.memEnd) :
    fillAlterColumn newTableDef alterList thdId done.length (.renameColumn name newName)
        (alterLoop done copies (.renameColumn name newName :: rest) mem) =
      .ok (alterLoop
        (done ++ [renameEntry (name, tmpColumn (BitVec.ofNat 32 (alterList.length + copies.length))
          thdId)])
        (copies ++ [renameEntry (tmpColumn (BitVec.ofNat 32 (alterList.length + copies.length))
          thdId, newName)])
        rest { mem with memStart := mem.memStart + ctcMaxColumnLen }) := by
  have hcols := renameCols_rename name newName rest
  have hle : renameCols alterList ≤ alterList.length := List.countP_le_length
  have hindex : nAlterList alterList - renameCols alterList + copies.length =
      alterList.length + copies.length := by
    rw [nAlterList_eq hlen, Nat.add_sub_cancel]
  have hmod : (alterList.length + copies.length) % 2 ^ 32 = alterList.length + copies.length := by
    apply Nat.mod_eq_of_lt
    omega
  have halloc : ctcDdlAllocMem ctcMaxColumnLen mem =
      some (mem.memStart, { mem with memStart := mem.memStart + ctcMaxColumnLen }) := by
    rw [ctcDdlAllocMem, if_neg (by omega)]
  -- the entry is there, and the copy is the first blank one behind the other copies
  generalize hbehind : List.replicate rest.length ReqAlterColumn.init ++
    (copies ++ .init :: List.replicate (renameCols rest) .init) = behind
  have hget : (done ++ ReqAlterColumn.init :: behind)[done.length]? = some .init :=
    get_middle done behind .init rfl
  have hset : ∀ y, (done ++ ReqAlterColumn.init :: behind).set done.length y =
      done ++ y :: behind := fun y => set_middle done behind .init y rfl
  have hsplit : ∀ y : ReqAlterColumn, done ++ y :: behind =
      (done ++ y :: (List.replicate rest.length .init ++ copies)) ++
        .init :: List.replicate (renameCols rest) .init := by
    intro y
    rw [← hbehind]
    simp
  have hcopyLen : ∀ y : ReqAlterColumn,
      (done ++ y :: (List.replicate rest.length .init ++ copies)).length =
        alterList.length + copies.length := by
    intro y
    simp only [List.length_append, List.length_cons, List.length_replicate]
    omega
  have hcopyGet : ∀ y : ReqAlterColumn,
      (done ++ y :: behind)[alterList.length + copies.length]? = some .init := by
    intro y
    rw [hsplit]
    exact get_middle _ _ _ (hcopyLen y)
  have hcopySet : ∀ y z : ReqAlterColumn,
      (done ++ y :: behind).set (alterList.length + copies.length) z =
        done ++ y :: (List.replicate rest.length .init ++
          (copies ++ z :: List.replicate (renameCols rest) .init)) := by
    intro y z
    rw [hsplit, set_middle _ _ _ _ (hcopyLen y)]
    simp
  unfold fillAlterColumn alterLoop
  simp only [List.length_cons, List.replicate_succ, List.cons_append, hcols, hbehind, hget, hindex,
    hmod, halloc, hcopyGet, hset, hcopySet]
  simp only [List.append_assoc, List.cons_append, List.nil_append, List.length_append,
    List.length_nil, List.length_cons]
  rfl

theorem copyEntries_rename (first : Nat) (name newName : SqlText) (rest : List AlterColumn) :
    copyEntries thdId first (.renameColumn name newName :: rest) =
      renameEntry (tmpColumn (BitVec.ofNat 32 first) thdId, newName) ::
        copyEntries thdId (first + 1) rest := by
  rw [copyEntries, renameCols_rename, temps_succ]
  rfl

theorem copyEntries_change (first : Nat) {alterColumn : AlterColumn} (rest : List AlterColumn)
    (h : alterColumn.isRename = false) :
    copyEntries thdId first (alterColumn :: rest) = copyEntries thdId first rest := by
  rw [copyEntries, copyEntries, renameCols_change rest h]
  cases alterColumn with
  | renameColumn name newName => cases h
  | _ => rfl

theorem fillAlterLoop_eq (hlen : 2 * alterList.length < 2 ^ 32) {rest : List AlterColumn} :
    ∀ {done copies : List ReqAlterColumn} {mem : DdlMem},
      done.length + rest.length = alterList.length →
      copies.length + renameCols rest = renameCols alterList →
      mem.memStart + ctcMaxColumnLen * renameCols rest < mem.memEnd →
      (∀ alterColumn ∈ rest, alterColumn.isRename = false →
        ∃ col ∈ newTableDef, col.name = alterColumn.name) →
      fillAlterLoop newTableDef alterList thdId done.length rest
          (alterLoop done copies rest mem) =
        .ok ⟨done ++ (firstEntries newTableDef thdId (alterList.length + copies.length) rest ++
            (copies ++ copyEntries thdId (alterList.length + copies.length) rest)),
          renameCols alterList,
          { mem with memStart := mem.memStart + ctcMaxColumnLen * renameCols rest }⟩ := by
  induction rest with
  | nil =>
    intro done copies mem hdone hcopies hmem hfound
    have hnum : copies.length = renameCols alterList := hcopies
    rw [fillAlterLoop, alterLoop, hnum]
    rfl
  | cons alterColumn rest ih =>
    intro done copies mem hdone hcopies hmem hfound
    rw [List.forall_mem_cons] at hfound
    rw [fillAlterLoop]
    rw [List.length_cons] at hdone
    cases hrename : alterColumn.isRename with
    | false =>
      rw [renameCols_change rest hrename] at hcopies hmem ⊢
      have hnext : done.length + 1 = (done ++ [changeEntry newTableDef alterColumn]).length := by
        rw [List.length_append, List.length_singleton]
      have hfirst : firstEntries newTableDef thdId (alterList.length + copies.length)
            (alterColumn :: rest) =
          changeEntry newTableDef alterColumn ::
            firstEntries newTableDef thdId (alterList.length + copies.length) rest := by
        cases alterColumn with
        | renameColumn name newName => cases hrename
        | _ => rfl
      rw [fillAlterColumn_change hrename (hfound.1 hrename), result_bind_ok, hnext,
        ih (by rw [← hnext]; omega) hcopies hmem hfound.2, hfirst, copyEntries_change _ _ hrename,
        List.append_assoc]
      rfl
    | true =>
      cases alterColumn with
      | renameColumn name newName =>
        rw [renameCols_rename] at hcopies hmem ⊢
        rw [Nat.mul_succ] at hmem ⊢
        have hnext : ∀ y : ReqAlterColumn, done.length + 1 = (done ++ [y]).length := by
          intro y
          rw [List.length_append, List.length_singleton]
        have hcopy : ∀ y : ReqAlterColumn, (copies ++ [y]).length = copies.length + 1 := by
          intro y
          rw [List.length_append, List.length_singleton]
        rw [fillAlterColumn_rename hlen hdone hcopies (by omega), result_bind_ok, hnext,
          ih (by rw [← hnext]; omega) (by rw [hcopy]; omega) (by simp only; omega) hfound.2, hcopy,
          copyEntries_rename, firstEntries, List.append_assoc, List.append_assoc]
        congr 3
        show mem.memStart + ctcMaxColumnLen + ctcMaxColumnLen * renameCols rest = _
        omega
      | _ => cases hrename

/-! ### The alter list renames the columns -/

theorem renames_rename (name newName : SqlText) (rest : List AlterColumn) :
    renames (.renameColumn name newName :: rest) = (name, newName) :: renames rest := rfl

theorem renames_change {alterColumn : AlterColumn} (rest : List AlterColumn)
    (h : alterColumn.isRename = false) : renames (alterColumn :: rest) = renames rest := by
  cases alterColumn with
  | renameColumn name newName => cases h
  | _ => rfl

theorem renamesOf_append (list list' : List ReqAlterColumn) :
    renamesOf (list ++ list') = renamesOf list ++ renamesOf list' := by
  rw [renamesOf, List.filter_append, List.filterMap_append]
  rfl

theorem renamesOf_renameEntry_cons (change : SqlText × SqlText) (list : List ReqAlterColumn) :
    renamesOf (renameEntry change :: list) = change :: renamesOf list := rfl

theorem renamesOf_map_renameEntry (changes : List (SqlText × SqlText)) :
    renamesOf (changes.map renameEntry) = changes := by
  induction changes with
  | nil => rfl
  | cons change changes ih => rw [List.map_cons, renamesOf_renameEntry_cons, ih]

theorem changeEntry_type (newTableDef : List DdColumn) {alterColumn : AlterColumn} (h : alterColumn.isRename = false) :
    (changeEntry newTableDef alterColumn).type ≠ .renameColumn := by
  cases alterColumn with
  | renameColumn name newName => cases h
  | _ => simp [changeEntry, ctcDdlGetAlterColumnTypeFromMysqlType]

theorem firstEntries_change (first : Nat) {alterColumn : AlterColumn} (rest : List AlterColumn)
    (h : alterColumn.isRename = false) :
    firstEntries newTableDef thdId first (alterColumn :: rest) =
      changeEntry newTableDef alterColumn :: firstEntries newTableDef thdId first rest := by
  cases alterColumn with
  | renameColumn name newName => cases h
  | _ => rfl

theorem renamesOf_firstEntries (alterList : List AlterColumn) (first : Nat) :
    renamesOf (firstEntries newTableDef thdId first alterList) =
      ((renames alterList).zip (temps thdId first (renameCols alterList))).map
        fun q => (q.1.1, q.2) := by
  induction alterList generalizing first with
  | nil => rfl
  | cons alterColumn rest ih =>
    cases hrename : alterColumn.isRename with
    | false =>
      rw [firstEntries_change first rest hrename, renames_change rest hrename,
        renameCols_change rest hrename, ← ih]
      have htype := changeEntry_type newTableDef hrename
      rw [renamesOf, List.filter_cons_of_neg (by simpa using htype)]
      rfl
    | true =>
      cases alterColumn with
      | renameColumn name newName =>
        rw [firstEntries, renamesOf_renameEntry_cons, ih, renames_rename, renameCols_rename,
          temps_succ, List.zip_cons_cons, List.map_cons]
      | _ => cases hrename

theorem renamesOf_copyEntries (alterList : List AlterColumn) (first : Nat) :
    renamesOf (copyEntries thdId first alterList) =
      ((renames alterList).zip (temps thdId first (renameCols alterList))).map
        fun q => (q.2, q.1.2) := by
  have hmap : copyEntries thdId first alterList =
      (((renames alterList).zip (temps thdId first (renameCols alterList))).map
        fun q => (q.2, q.1.2)).map renameEntry := by
    rw [List.map_map]
    rfl
  rw [hmap, renamesOf_map_renameEntry]

theorem filter_firstEntries (alterList : List AlterColumn) (first : Nat) :
    ((firstEntries newTableDef thdId first alterList).filter fun entry =>
        entry.type ≠ .renameColumn) =
      (alterList.filter fun alterColumn => !alterColumn.isRename).map
        (changeEntry newTableDef) := by
  induction alterList generalizing first with
  | nil => rfl
  | cons alterColumn rest ih =>
    cases hrename : alterColumn.isRename with
    | false =>
      have htype := changeEntry_type newTableDef hrename
      rw [firstEntries_change first rest hrename, List.filter_cons_of_pos (by simpa using htype), ih,
        List.filter_cons_of_pos (by simp [hrename]), List.map_cons]
    | true =>
      cases alterColumn with
      | renameColumn name newName =>
        rw [firstEntries, List.filter_cons_of_neg (by simp [renameEntry]), ih]
        rfl
      | _ => cases hrename

theorem filter_copyEntries (alterList : List AlterColumn) (first : Nat) :
    ((copyEntries thdId first alterList).filter fun entry => entry.type ≠ .renameColumn) = [] := by
  rw [List.filter_eq_nil_iff]
  intro entry hentry
  obtain ⟨q, -, rfl⟩ := List.mem_map.mp hentry
  simp [renameEntry]

/-- **Renaming columns.** The entries that rename columns, applied in turn, rename every column of
the statement at once, also where columns exchange their names. The other entries are the other
changes of the statement, in their order. -/
theorem fillAlterList4alterTable_renames {mem : DdlMem} {columns : List SqlText}
    (hlen : 2 * alterList.length < 2 ^ 32)
    (hmem : mem.memStart + ctcMaxColumnLen * renameCols alterList < mem.memEnd)
    (hfound : ∀ alterColumn ∈ alterList, alterColumn.isRename = false →
      ∃ col ∈ newTableDef, col.name = alterColumn.name)
    (hold : ∀ p ∈ renames alterList, p.1 ∈ columns)
    (holds : ((renames alterList).map Prod.fst).Nodup)
    (htemp : ∀ copyRmIndex, tmpColumn copyRmIndex thdId ∉ columns ∧
      tmpColumn copyRmIndex thdId ∉ (renames alterList).map Prod.snd)
    (hresult : (columns.map (Renaming.atOnce (renames alterList))).Nodup) :
    ∃ done, fillAlterList4alterTable newTableDef alterList thdId mem = .ok done ∧
      Renaming.inTurn (renamesOf done.list) columns =
        some (columns.map (Renaming.atOnce (renames alterList))) ∧
      (done.list.filter fun entry => entry.type ≠ .renameColumn) =
        (alterList.filter fun alterColumn => !alterColumn.isRename).map
          (changeEntry newTableDef) := by
  have hle : renameCols alterList ≤ alterList.length := List.countP_le_length
  have hsub : nAlterList alterList - renameCols alterList = alterList.length := by
    rw [nAlterList_eq hlen, Nat.add_sub_cancel]
  have hstart : (⟨List.replicate (nAlterList alterList) .init, 0, mem⟩ : AlterLoop) =
      alterLoop [] [] alterList mem := by
    rw [nAlterList_eq hlen, List.replicate_add]
    rfl
  have hrun := @fillAlterLoop_eq newTableDef alterList thdId hlen alterList [] [] mem
    (Nat.zero_add _) (Nat.zero_add _) hmem hfound
  rw [fillAlterList4alterTable, hsub, List.take_length, hstart]
  refine ⟨_, hrun, ?_, ?_⟩
  · rw [List.nil_append, List.nil_append, renamesOf_append, renamesOf_firstEntries,
      renamesOf_copyEntries]
    apply Renaming.inTurn_detour
    · rw [length_temps, length_renames]
    · exact holds
    · exact hold
    · intro t ht
      obtain ⟨j, -, rfl⟩ := List.mem_map.mp ht
      exact htemp _
    · apply temps_nodup
      have hzero : ([] : List ReqAlterColumn).length = 0 := rfl
      omega
    · exact hresult
  · rw [List.nil_append, List.nil_append, List.filter_append, filter_firstEntries,
      filter_copyEntries, List.append_nil]

end

theorem lt_length_tmpColumn (copyRmIndex thdId : BitVec 32) :
    18 < (tmpColumn copyRmIndex thdId).length := by
  unfold tmpColumn
  simp only [List.length_append, List.length_cons]
  have hhead : 18 ≤ "TMPCOLUMN4CANTIAN_".toList.length := by simp
  calc 18 ≤ "TMPCOLUMN4CANTIAN_".toList.length := hhead
    _ ≤ "TMPCOLUMN4CANTIAN_".toList.length + (percentD copyRmIndex).length := Nat.le_add_right _ _
    _ < _ := Nat.lt_add_of_pos_right (Nat.succ_pos _)

theorem tmpColumn_not_mem {names : List SqlText} (h : ∀ name ∈ names, name.length ≤ 18)
    (copyRmIndex thdId : BitVec 32) : tmpColumn copyRmIndex thdId ∉ names := by
  intro hmem
  exact absurd (h _ hmem) (Nat.not_le_of_lt (lt_length_tmpColumn copyRmIndex thdId))

/-- Two columns exchange their names, and a third one gets a default. -/
theorem fillAlterList4alterTable_exchange :
    ∃ done, fillAlterList4alterTable [⟨['c'], false, true, false⟩]
        [.renameColumn ['a'] ['b'], .setDefault ['c'], .renameColumn ['b'] ['a']] 7
        ⟨fun _ => 0, 0, 200⟩ = .ok done ∧
      Renaming.inTurn (renamesOf done.list) [['a'], ['b'], ['c']] =
        some [['b'], ['a'], ['c']] ∧
      (done.list.filter fun entry => entry.type ≠ .renameColumn) =
        [⟨some ['c'], none, .setDefault, false, true⟩] := by
  have hshort : ∀ name ∈ ([['a'], ['b'], ['c']] : List SqlText), name.length ≤ 18 := by decide
  have hnames : ∀ name ∈ ([['b'], ['a']] : List SqlText), name.length ≤ 18 := by decide
  exact fillAlterList4alterTable_renames (by decide) (by decide) (by decide) (by decide)
    (by decide) (fun i => ⟨tmpColumn_not_mem hshort i 7, tmpColumn_not_mem hnames i 7⟩) (by decide)

end CantianConnector.Ddl
