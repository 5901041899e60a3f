import CantianConnector.Pushdown.FieldNumber

/-!
# DATE columns compared with a literal

A literal that is compared with a DATE column is cut to its date, so a comparison that is true
only because of the literal's time of day has to be widened. `refill_cond_type_date` does this
for `<` and `<>` when one of the four time parts is zero, whichever side the column stands on.

A row is lost when MySQL's comparison is true and the engine's is not. That happens only for
rows of the literal's own day, and this module says for which comparisons.
-/

namespace CantianConnector.Pushdown

open CantianConnector.Convert

/-! ## The two comparisons -/

/-- The comparison operators. -/
inductive CmpOp where
  | eq | ne | lt | le | gt | ge
deriving DecidableEq, Repr

namespace CmpOp

def functype : CmpOp → Functype
  | eq => .eq
  | ne => .ne
  | lt => .lt
  | le => .le
  | gt => .gt
  | ge => .ge

/-- The operator on numbers. -/
def Holds : CmpOp → Int → Int → Prop
  | eq, a, b => a = b
  | ne, a, b => a ≠ b
  | lt, a, b => a < b
  | le, a, b => a ≤ b
  | gt, a, b => b < a
  | ge, a, b => b ≤ a

end CmpOp

/-- The operand on the left. -/
inductive Left where
  | column
  | literal
deriving DecidableEq, Repr

/-- The two operands in their order. -/
def Left.operands {α : Type} (left : Left) (column literal : α) : List α :=
  match left with
  | .column => [column, literal]
  | .literal => [literal, column]

/-- A function of the two operands in their order. -/
def Left.apply {α β : Type} (left : Left) (f : α → α → β) (column literal : α) : β :=
  match left with
  | .column => f column literal
  | .literal => f literal column

/-- The server's ranges of a datetime value. -/
structure InRange (t : MysqlTime) : Prop where
  year : t.year ≤ 9999
  month : t.month ≤ 12
  day : t.day ≤ 31
  hour : t.hour < 24
  minute : t.minute < 60
  second : t.second < 60
  secondPart : t.secondPart < 1000000
  neg : t.neg = false

/-- The value of a DATE column: midnight of its day. -/
structure IsDate (d : MysqlTime) : Prop extends InRange d where
  hour_eq : d.hour = 0
  minute_eq : d.minute = 0
  second_eq : d.second = 0
  secondPart_eq : d.secondPart = 0

/-- The server's packing of the date. -/
def ymdPacked (t : MysqlTime) : Nat := (t.year * 13 + t.month) * 32 + t.day

/-- The server's packing of the time of day. -/
def hmsPacked (t : MysqlTime) : Nat :=
  (t.hour * 4096 + t.minute * 64 + t.second) * 2 ^ 24 + t.secondPart

/-- `TIME_to_longlong_datetime_packed`, by which the server compares dates. -/
def datetimePacked (t : MysqlTime) : Int :=
  let tmp : Int := (ymdPacked t * 2 ^ 41 + hmsPacked t : Nat)
  if t.neg then -tmp else tmp

/-- The server's comparison of a DATE column with a literal. -/
def MysqlTrue (left : Left) (op : CmpOp) (d ltime : MysqlTime) : Prop :=
  left.apply op.Holds (datetimePacked d) (datetimePacked ltime)

/-- The eight bytes that a row holds for a DATE column. -/
def dateImage (d : MysqlTime) : List UInt8 := tmpPtr (myDateToBinary d)

/-- The number an operand stands for in a row whose DATE column holds `column`. -/
def operandValue (column : List UInt8) : CtcConds → Option Nat
  | .node .field _ _ _ => some (Bytes.ofLe column)
  | .node .const _ info _ => info.fieldValue.map Bytes.ofLe
  | _ => none

/-- The engine's operators on numbers. -/
def engineHolds : CtcFunc → Nat → Nat → Bool
  | .eq, a, b => a == b
  | .equal, a, b => a == b
  | .ne, a, b => a != b
  | .lt, a, b => decide (a < b)
  | .le, a, b => decide (a ≤ b)
  | .gt, a, b => decide (b < a)
  | .ge, a, b => decide (b ≤ a)
  | .isNotNull, _, _ => true
  | _, _, _ => false

/-- The engine's evaluation of a comparison. -/
def engineTrue (column : List UInt8) : CtcConds → Bool
  | .node .cmp func _ (some [left, right]) =>
    match operandValue column left, operandValue column right with
    | some a, some b => engineHolds func a b
    | _, _ => false
  | _ => false

/-! ## Lost rows -/

/-- One of the literal's time parts is zero: the condition of `refill_cond_type_date`. -/
def SomePartZero (t : MysqlTime) : Prop :=
  t.hour = 0 ∨ t.minute = 0 ∨ t.second = 0 ∨ t.secondPart = 0

/-- The literal is the beginning of its day. -/
def IsMidnight (t : MysqlTime) : Prop :=
  t.hour = 0 ∧ t.minute = 0 ∧ t.second = 0 ∧ t.secondPart = 0

instance (t : MysqlTime) : Decidable (SomePartZero t) :=
  inferInstanceAs (Decidable (_ ∨ _ ∨ _ ∨ _))

instance (t : MysqlTime) : Decidable (IsMidnight t) :=
  inferInstanceAs (Decidable (_ ∧ _ ∧ _ ∧ _))

def SameDay (s t : MysqlTime) : Prop := s.year = t.year ∧ s.month = t.month ∧ s.day = t.day

/-- The comparisons that lose the rows of the literal's day: `literal > column` is never widened,
and `column < literal` and `<>` are not when all time parts are set. -/
def LosesDay (left : Left) (op : CmpOp) (ltime : MysqlTime) : Prop :=
  (left = .literal ∧ op = .gt ∧ ¬ IsMidnight ltime) ∨
    ((left = .column ∧ op = .lt ∨ op = .ne) ∧ ¬ SomePartZero ltime)

/-! ## Days -/

/-- The number `my_date_to_binary` stores. -/
def dayNumber (t : MysqlTime) : Nat := t.day + t.month * 32 + t.year * 16 * 32

theorem ofLe_dateImage {t : MysqlTime} (ht : InRange t) :
    Bytes.ofLe (dateImage t) = dayNumber t := by
  have hyear := ht.year
  have hmonth := ht.month
  have hday := ht.day
  have hlt : dayNumber t < 256 ^ 3 := by
    unfold dayNumber
    omega
  have himage : dateImage t = Bytes.le 3 (dayNumber t) ++ List.replicate 5 0 := rfl
  rw [himage, Bytes.ofLe_append, Bytes.ofLe_zeros, Bytes.ofLe_le_of_lt hlt]
  omega

theorem hmsPacked_lt {t : MysqlTime} (ht : InRange t) : hmsPacked t < 2 ^ 41 := by
  have hhour := ht.hour
  have hminute := ht.minute
  have hsecond := ht.second
  have hpart := ht.secondPart
  unfold hmsPacked
  omega

theorem hmsPacked_midnight {d : MysqlTime} (hd : IsDate d) : hmsPacked d = 0 := by
  simp [hmsPacked, hd.hour_eq, hd.minute_eq, hd.second_eq, hd.secondPart_eq]

theorem hmsPacked_eq_zero_iff {t : MysqlTime} : hmsPacked t = 0 ↔ IsMidnight t := by
  unfold hmsPacked IsMidnight
  omega

theorem dayNumber_eq_iff {s t : MysqlTime} (hs : InRange s) (ht : InRange t) :
    dayNumber s = dayNumber t ↔ SameDay s t := by
  have := hs.month
  have := ht.month
  have := hs.day
  have := ht.day
  unfold dayNumber SameDay
  omega

/-- Both packings order days alike. -/
theorem ymdPacked_lt_iff {s t : MysqlTime} (hs : InRange s) (ht : InRange t) :
    ymdPacked s < ymdPacked t ↔ dayNumber s < dayNumber t := by
  have := hs.month
  have := ht.month
  have := hs.day
  have := ht.day
  unfold ymdPacked dayNumber
  omega

/-- A day begins before a moment of the same day, unless that moment is midnight. -/
theorem datetimePacked_lt_iff {d t : MysqlTime} (hd : IsDate d) (ht : InRange t) :
    datetimePacked d < datetimePacked t ↔
      dayNumber d < dayNumber t ∨ dayNumber d = dayNumber t ∧ ¬ IsMidnight t := by
  rw [← hmsPacked_eq_zero_iff]
  have h1 := ymdPacked_lt_iff hd.toInRange ht
  have h2 := ymdPacked_lt_iff ht hd.toInRange
  have h3 := hmsPacked_lt ht
  simp only [datetimePacked, hd.neg, ht.neg, Bool.false_eq_true, if_false,
    hmsPacked_midnight hd]
  omega

/-- No moment of a day or of a later one is before the day. -/
theorem lt_datetimePacked_iff {d t : MysqlTime} (hd : IsDate d) (ht : InRange t) :
    datetimePacked t < datetimePacked d ↔ dayNumber t < dayNumber d := by
  have h1 := ymdPacked_lt_iff hd.toInRange ht
  have h2 := ymdPacked_lt_iff ht hd.toInRange
  have h3 := hmsPacked_lt ht
  simp only [datetimePacked, hd.neg, ht.neg, Bool.false_eq_true, if_false,
    hmsPacked_midnight hd]
  omega

/-! ## The comparison that is built -/

/-- The operator of the node built for a comparison. -/
def CmpOp.func : CmpOp → CtcFunc
  | eq => .eq
  | ne => .ne
  | lt => .lt
  | le => .le
  | gt => .gt
  | ge => .ge

theorem CmpOp.setCondTypes_functype (op : CmpOp) : setCondTypes op.functype = (op.func, .cmp) := by
  cases op <;> rfl

/-- A literal of type DATE. -/
structure FuncItem.IsDateLiteral (lit : FuncItem) (ltime : MysqlTime) : Prop where
  date : (setCondTypes lit.functype).2 = .date
  dataType : lit.dataType = .date
  literal : lit.literal = some ltime

section

variable {env : FillEnv} {table : Table} {item : FieldItem} {columnId : Nat} {field : Field}
  {fn lit : FuncItem} {litArgs : List Item} {ltime d : MysqlTime}

/-- The node of a DATE literal; the operator of its parent is refilled. -/
theorem dfsFillConds_dateLiteral (hLit : lit.IsDateLiteral ltime) (fields : List Field)
    (noBackslash : Bool) (func : CtcFunc) :
    ∃ node, dfsFillConds env fields noBackslash (.func lit litArgs) (some func) =
        .ok (node, some (refillCondTypeDate ltime func)) ∧
      ∀ column, operandValue column node = some (Bytes.ofLe (dateImage ltime)) := by
  have hyear : lit.dataType ≠ .year := by
    rw [hLit.dataType]
    intro h
    cases h
  rw [dfsFillConds, if_pos hLit.date, condFillDate, if_neg hyear, hLit.literal, hLit.dataType]
  refine ⟨_, rfl, ?_⟩
  intro column
  rfl

/-- A comparison becomes a node with the two operands in order and one operator, refilled once. -/
theorem ctcFillConds_comparison
    (hNames : (table.fields.map fun f => env.caseFold f.fieldName).Nodup)
    (hItem : item.StandsFor env table columnId field) (hLit : lit.IsDateLiteral ltime)
    {func : CtcFunc} (hFunc : setCondTypes fn.functype = (func, .cmp)) (left : Left)
    (noBackslash : Bool) :
    ∃ conds, ctcFillConds env table.fields noBackslash
        (.func fn (left.operands (.field item) (.func lit litArgs))) = .ok conds ∧
      ∀ column, engineTrue column conds =
        left.apply (engineHolds (refillCondTypeDate ltime func)) (Bytes.ofLe column)
          (Bytes.ofLe (dateImage ltime)) := by
  obtain ⟨info, hinfo, -⟩ := condFillField_ok hNames ⟨_, hItem.column, hItem.itemName⟩ noBackslash
  obtain ⟨node, hnode, hvalue⟩ := @dfsFillConds_dateLiteral env lit litArgs ltime hLit
    table.fields noBackslash func
  have hfield : ∀ functype, dfsFillConds env table.fields noBackslash (.field item) functype =
      .ok (.leaf .field info, functype) := by
    intro functype
    rw [dfsFillConds, hinfo]
    rfl
  have hcmp : ¬ (setCondTypes fn.functype).2 = .date := by
    rw [hFunc]
    intro h
    cases h
  unfold ctcFillConds
  rw [dfsFillConds, if_neg hcmp, hFunc]
  cases left with
  | column =>
    simp only [Left.operands, fillArguments, hfield, hnode, result_bind_ok, result_pure]
    refine ⟨_, rfl, ?_⟩
    intro column
    simp only [engineTrue, hvalue, Option.getD_some]
    rfl
  | literal =>
    simp only [Left.operands, fillArguments, hfield, hnode, result_bind_ok, result_pure]
    refine ⟨_, rfl, ?_⟩
    intro column
    simp only [engineTrue, hvalue, Option.getD_some]
    rfl

/-! ## Which rows are lost -/

/-- The other operators are left alone. -/
theorem engineHolds_refill {op : CmpOp} (hlt : op ≠ .lt) (hne : op ≠ .ne) (ltime : MysqlTime)
    (a b : Nat) : engineHolds (refillCondTypeDate ltime op.func) a b = true ↔ op.Holds a b := by
  have hsame : refillCondTypeDate ltime op.func = op.func := by
    unfold refillCondTypeDate
    cases op with
    | lt => exact absurd rfl hlt
    | ne => exact absurd rfl hne
    | _ => exact ite_self _
  rw [hsame]
  cases op with
  | lt => exact absurd rfl hlt
  | ne => exact absurd rfl hne
  | _ => simp [CmpOp.func, engineHolds, CmpOp.Holds]

/-- The refilled `<` is true of the literal's day exactly when a time part is zero. -/
theorem engineHolds_refill_lt (ltime : MysqlTime) (a b : Nat) :
    engineHolds (refillCondTypeDate ltime .lt) a b = true ↔
      a < b ∨ a = b ∧ SomePartZero ltime := by
  unfold refillCondTypeDate SomePartZero
  split
  · rename_i h
    simp only [engineHolds, decide_eq_true_eq, h, and_true]
    omega
  · rename_i h
    simp only [engineHolds, decide_eq_true_eq, h, and_false, or_false]

/-- The refilled `<>` is true of the literal's day exactly when a time part is zero. -/
theorem engineHolds_refill_ne (ltime : MysqlTime) (a b : Nat) :
    engineHolds (refillCondTypeDate ltime .ne) a b = true ↔ a ≠ b ∨ SomePartZero ltime := by
  unfold refillCondTypeDate SomePartZero
  split
  · rename_i h
    simp only [engineHolds, h, or_true]
  · rename_i h
    simp only [engineHolds, bne_iff_ne, h, or_false]

theorem not_midnight_of_no_part_zero {ltime : MysqlTime} (h : ¬ SomePartZero ltime) :
    ¬ IsMidnight ltime := by
  intro hmid
  exact h (.inl hmid.1)

/-- What MySQL's comparison implies of the days is what is pushed down. -/
def KeepsDay (ltime : MysqlTime) (left : Left) (op : CmpOp) (p litP : Int) (day litDay : Nat) :
    Prop :=
  left.apply op.Holds p litP →
    left.apply (engineHolds (refillCondTypeDate ltime op.func)) day litDay = true

section

variable {ltime : MysqlTime} {p litP : Int} {day litDay : Nat}

/-- `=`, `<=` and `>=` need no widening, for either order of the operands. -/
theorem keepsDay_same (left : Left) {op : CmpOp} (hlt : op ≠ .lt) (hne : op ≠ .ne) (hgt : op ≠ .gt)
    (hBefore : day < litDay → p < litP) (hAfter : litP < p ↔ litDay < day) :
    KeepsDay ltime left op p litP day litDay := by
  unfold KeepsDay
  cases left with
  | column =>
    simp only [Left.apply, engineHolds_refill hlt hne]
    cases op with
    | lt | ne | gt => contradiction
    | _ => simp only [CmpOp.Holds]; omega
  | literal =>
    simp only [Left.apply, engineHolds_refill hlt hne]
    cases op with
    | lt | ne | gt => contradiction
    | _ => simp only [CmpOp.Holds]; omega

/-- A column before the literal is lost on the literal's day without a time part of zero. -/
theorem keepsDay_lt_column
    (hBefore : p < litP ↔ day < litDay ∨ day = litDay ∧ ¬ IsMidnight ltime) :
    KeepsDay ltime .column .lt p litP day litDay ↔ ¬ (day = litDay ∧ ¬ SomePartZero ltime) := by
  simp only [KeepsDay, Left.apply, CmpOp.Holds, CmpOp.func, engineHolds_refill_lt, hBefore]
  constructor
  · rintro hkeep ⟨heq, hzero⟩
    rcases hkeep (.inr ⟨heq, not_midnight_of_no_part_zero hzero⟩) with h | h
    · omega
    · exact hzero h.2
  · intro hnot h
    rcases h with h | h
    · exact .inl h
    · exact .inr ⟨h.1, by_contra fun hzero => hnot ⟨h.1, hzero⟩⟩

/-- A literal after the column is lost on the literal's day unless it is midnight. -/
theorem keepsDay_gt_literal
    (hBefore : p < litP ↔ day < litDay ∨ day = litDay ∧ ¬ IsMidnight ltime) :
    KeepsDay ltime .literal .gt p litP day litDay ↔ ¬ (day = litDay ∧ ¬ IsMidnight ltime) := by
  simp only [KeepsDay, Left.apply, @engineHolds_refill .gt nofun nofun, CmpOp.Holds, hBefore]
  constructor
  · rintro hkeep ⟨heq, hmid⟩
    have := hkeep (.inr ⟨heq, hmid⟩)
    omega
  · intro hnot h
    rcases h with h | h
    · omega
    · exact absurd h hnot

/-- An inequality is lost on the literal's day without a time part of zero. -/
theorem keepsDay_ne (left : Left)
    (hBefore : p < litP ↔ day < litDay ∨ day = litDay ∧ ¬ IsMidnight ltime) :
    KeepsDay ltime left .ne p litP day litDay ↔ ¬ (day = litDay ∧ ¬ SomePartZero ltime) := by
  have hmysql : left.apply CmpOp.ne.Holds p litP ↔ p ≠ litP := by
    cases left with
    | column => rfl
    | literal => exact ne_comm
  have hengine : left.apply (engineHolds (refillCondTypeDate ltime .ne)) day litDay = true ↔
      day ≠ litDay ∨ SomePartZero ltime := by
    cases left with
    | column => exact engineHolds_refill_ne ltime day litDay
    | literal => rw [Left.apply, engineHolds_refill_ne ltime litDay day, ne_comm]
  rw [KeepsDay, hmysql, CmpOp.func, hengine]
  constructor
  · rintro hkeep ⟨heq, hzero⟩
    have hlt := hBefore.mpr (.inr ⟨heq, not_midnight_of_no_part_zero hzero⟩)
    rcases hkeep hlt.ne with h | h
    · exact h heq
    · exact hzero h
  · intro hnot _
    by_cases heq : day = litDay
    · exact .inr (by_contra fun hzero => hnot ⟨heq, hzero⟩)
    · exact .inl heq

/-- The two comparisons on numbers: `day` is the column's day and `litDay` the literal's. A row
can be lost only where the server tells the literal from the beginning of its day. -/
theorem keeps_iff (left : Left) (op : CmpOp)
    (hBefore : p < litP ↔ day < litDay ∨ day = litDay ∧ ¬ IsMidnight ltime)
    (hAfter : litP < p ↔ litDay < day) :
    KeepsDay ltime left op p litP day litDay ↔ ¬ (day = litDay ∧ LosesDay left op ltime) := by
  have hday : day < litDay → p < litP := fun h => hBefore.mpr (.inl h)
  cases op with
  | eq => exact iff_of_true (keepsDay_same left nofun nofun nofun hday hAfter) (by simp [LosesDay])
  | le => exact iff_of_true (keepsDay_same left nofun nofun nofun hday hAfter) (by simp [LosesDay])
  | ge => exact iff_of_true (keepsDay_same left nofun nofun nofun hday hAfter) (by simp [LosesDay])
  | lt =>
    cases left with
    | column =>
      have hloses : LosesDay .column .lt ltime ↔ ¬ SomePartZero ltime := by simp [LosesDay]
      rw [keepsDay_lt_column hBefore, hloses]
    | literal =>
      apply iff_of_true
      · simp only [KeepsDay, Left.apply, CmpOp.Holds, CmpOp.func, engineHolds_refill_lt, hAfter]
        exact .inl
      · simp [LosesDay]
  | ne =>
    have hloses : LosesDay left .ne ltime ↔ ¬ SomePartZero ltime := by simp [LosesDay]
    rw [keepsDay_ne left hBefore, hloses]
  | gt =>
    cases left with
    | column =>
      apply iff_of_true
      · simp only [KeepsDay, Left.apply, @engineHolds_refill .gt nofun nofun, CmpOp.Holds, hAfter]
        omega
      · simp [LosesDay]
    | literal =>
      have hloses : LosesDay .literal .gt ltime ↔ ¬ IsMidnight ltime := by simp [LosesDay]
      rw [keepsDay_gt_literal hBefore, hloses]

end

/-- **Which rows a pushed DATE comparison loses.** A comparison of a DATE column with a literal
is always built, and it is true of every row MySQL's comparison is true of exactly when the
row is not one of the literal's day or the comparison is not among `LosesDay`. -/
theorem dateComparison_keeps_iff
    (hNames : (table.fields.map fun f => env.caseFold f.fieldName).Nodup)
    (hItem : item.StandsFor env table columnId field) (hLit : lit.IsDateLiteral ltime)
    (hLtime : InRange ltime) (hDate : IsDate d) {op : CmpOp} (hOp : fn.functype = op.functype)
    (left : Left) (noBackslash : Bool) :
    ∃ conds, ctcFillConds env table.fields noBackslash
        (.func fn (left.operands (.field item) (.func lit litArgs))) = .ok conds ∧
      ((MysqlTrue left op d ltime → engineTrue (dateImage d) conds = true) ↔
        ¬ (SameDay d ltime ∧ LosesDay left op ltime)) := by
  have hFunc : setCondTypes fn.functype = (op.func, .cmp) := by
    rw [hOp, op.setCondTypes_functype]
  obtain ⟨conds, hconds, hengine⟩ :=
    @ctcFillConds_comparison env table item columnId field fn lit litArgs ltime hNames hItem hLit
      op.func hFunc left noBackslash
  refine ⟨conds, hconds, ?_⟩
  rw [hengine, ofLe_dateImage hDate.toInRange, ofLe_dateImage hLtime,
    ← dayNumber_eq_iff hDate.toInRange hLtime]
  exact keeps_iff left op (datetimePacked_lt_iff hDate hLtime) (lt_datetimePacked_iff hDate hLtime)

end

/-! ## A boundary row -/

/-- A table of one DATE column. -/
def dateTable : Table :=
  ⟨[{ fieldName := "d", columnType := .date, offset := 1, nullBit := none, gcol := .none
      autoIncrement := false, binaryCharset := false }], 1⟩

def dateColumn : FieldItem :=
  { itemName := "d", dataType := .date, realType := .date, cmpContext := .int, isGcol := false
    partOfPrefixkey := false, padChar := 32, csNumber := 63 }

def dateLiteral (ltime : MysqlTime) : FuncItem :=
  { functype := .dateFunc, dataType := .date, cmpContext := .int, resultType := .int
    literal := some ltime, escapeUsed := false }

def comparison (op : CmpOp) : FuncItem :=
  { functype := op.functype, dataType := .longlong, cmpContext := .int, resultType := .int
    literal := none, escapeUsed := false }

def firstOfMay : MysqlTime := { year := 2024, month := 5, day := 1 }

/-- 10:20:30.5 on the same day. -/
def thatMorning : MysqlTime :=
  { firstOfMay with hour := 10, minute := 20, second := 30, secondPart := 500000 }

theorem firstOfMay_isDate : IsDate firstOfMay := by
  constructor
  · constructor <;> decide
  all_goals rfl

theorem thatMorning_inRange : InRange thatMorning := by
  constructor <;> decide

theorem dateTable_names :
    (dateTable.fields.map fun f => FillEnv.plain.caseFold f.fieldName).Nodup := by decide

theorem dateColumn_standsFor : dateColumn.StandsFor .plain dateTable 0
    ⟨"d", .date, 1, none, .none, false, false⟩ := ⟨rfl, rfl, rfl⟩

theorem dateLiteral_isDateLiteral (ltime : MysqlTime) :
    (dateLiteral ltime).IsDateLiteral ltime := ⟨rfl, rfl, rfl⟩

/-- `d < '2024-05-01 10:20:30.5'` is true of the first of May, and the engine drops the row. -/
theorem dateComparison_loses_that_morning :
    ∃ conds, ctcFillConds .plain dateTable.fields false
        (.func (comparison .lt) (Left.column.operands (.field dateColumn)
          (.func (dateLiteral thatMorning) []))) = .ok conds ∧
      MysqlTrue .column .lt firstOfMay thatMorning ∧
      engineTrue (dateImage firstOfMay) conds = false := by
  obtain ⟨conds, hconds, hengine⟩ := @ctcFillConds_comparison .plain dateTable dateColumn 0 _
    (comparison .lt) (dateLiteral thatMorning) [] thatMorning dateTable_names
    dateColumn_standsFor (dateLiteral_isDateLiteral _) .lt rfl .column false
  refine ⟨conds, hconds, ?_, ?_⟩
  · exact (datetimePacked_lt_iff firstOfMay_isDate thatMorning_inRange).mpr (.inr (by decide))
  · rw [hengine]
    decide

/-- At 10:00 the operator is widened and the row is kept. -/
theorem dateComparison_keeps_ten_o_clock :
    ∃ conds, ctcFillConds .plain dateTable.fields false
        (.func (comparison .lt) (Left.column.operands (.field dateColumn)
          (.func (dateLiteral { firstOfMay with hour := 10 }) []))) = .ok conds ∧
      engineTrue (dateImage firstOfMay) conds = true := by
  have hrange : InRange { firstOfMay with hour := 10 } := by constructor <;> decide
  obtain ⟨conds, hconds, hiff⟩ := @dateComparison_keeps_iff .plain dateTable dateColumn 0 _
    (comparison .lt) (dateLiteral { firstOfMay with hour := 10 }) [] _ firstOfMay dateTable_names
    dateColumn_standsFor (dateLiteral_isDateLiteral _) hrange firstOfMay_isDate .lt rfl
    .column false
  refine ⟨conds, hconds, hiff.mpr ?_ ?_⟩
  · rintro ⟨-, hloses | hloses⟩
    · cases hloses.1
    · exact hloses.2 (.inr (.inl rfl))
  · exact (datetimePacked_lt_iff firstOfMay_isDate hrange).mpr (.inr (by decide))

end CantianConnector.Pushdown
