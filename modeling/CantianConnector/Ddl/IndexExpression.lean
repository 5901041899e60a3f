import CantianConnector.Ddl.SqlText
import Mathlib.Data.List.TakeWhile

/-!
# The text of an index expression

For a functional key part `ctc_fill_func_key_part` prints the expression into a string of any length
and copies it with `strncpy` into the `FUNC_TEXT_MAX_LEN` bytes of the request. A prefix key part is
printed there with `snprintf`. Neither looks at what did not fit (`funcText_whole_iff`).
-/

namespace CantianConnector.Ddl

/-- `FUNC_TEXT_MAX_LEN`. -/
def funcTextMaxLen : Nat := 128

/-! ## Expressions -/

/-- An `Item`, as far as the functions below look at it. -/
inductive ExprItem where
  /-- `FIELD_ITEM`: `field_name`, `item_name` and the `field_name` of the field. -/
  | field (fieldName itemName column : SqlText)
  /-- `FUNC_ITEM`: `func_name()`, whether the collation is `my_charset_bin`, the arguments. -/
  | func (funcName : SqlText) (binary : Bool) (args : List ExprItem)
  /-- An `Item_cond`: an `Item_func` of another type whose `arg_count` is 0. It prints itself. -/
  | cond (text : SqlText)
  /-- A literal or another item that prints itself. -/
  | other (text : SqlText)

/-- `print_op_func_name`. -/
def printOpFuncName : List SqlText :=
  ["DIV".toList, "/".toList, "*".toList, "%".toList, "+".toList, "-".toList, "|".toList,
    "&".toList, "^".toList, "<<".toList, ">>".toList, "~".toList]

/-- `ctc_print_op`, on the printed arguments. -/
def ctcPrintOp (funcName : SqlText) (args : List SqlText) : SqlText :=
  '(' :: ((' ' :: (funcName ++ [' '])).intercalate args ++ [')'])

/-- `ctc_print_func`, on the printed arguments. -/
def ctcPrintFunc (funcName : SqlText) (binary : Bool) (args : List SqlText) : SqlText :=
  (if binary = true ∧ funcName = "substr".toList then "substrb".toList else funcName) ++
    '(' :: ([','].intercalate args ++ [')'])

section

-- `ctc_item_print_json_value`
variable (printJsonValue : SqlText → Bool → List ExprItem → SqlText)

mutual

/-- `ctc_rewrite_expression_clause`. -/
def ctcRewriteExpressionClause : ExprItem → SqlText
  | .field fieldName _ _ => fieldName
  | .func funcName binary args =>
    if funcName ∈ printOpFuncName then ctcPrintOp funcName (rewriteArgs args)
    else if funcName = "json_value".toList then printJsonValue funcName binary args
    else ctcPrintFunc funcName binary (rewriteArgs args)
  | .cond text => text
  | .other text => text

def rewriteArgs : List ExprItem → List SqlText
  | [] => []
  | arg :: args => ctcRewriteExpressionClause arg :: rewriteArgs args

end

end

/-! ## Checks -/

/-- `mysql_func_name_to_ctc_map`. -/
def mysqlFuncNameToCtcMap : List (SqlText × SqlText) :=
  [("%".toList, "mod".toList), ("cast_as".toList, "cast".toList),
    ("ceiling".toList, "ceil".toList), ("locate".toList, "position".toList)]

/-- The messages that are reported, or a value. -/
abbrev Reported (α : Type) := Except (List SqlText) α

mutual

/-- `ctc_check_func_name`; items of another type are not looked at. -/
def ctcCheckFuncName : ExprItem → Reported Unit
  | .func funcName _ args =>
    match mysqlFuncNameToCtcMap.find? fun names => names.1.isPrefixOf funcName with
    | some names =>
      .error ["Function ".toList ++ names.2 ++ " is not indexable".toList]
    | none => checkArgs args
  | .field .. => .ok ()
  | .cond _ => .ok ()
  | .other _ => .ok ()

def checkArgs : List ExprItem → Reported Unit
  | [] => .ok ()
  | arg :: args => do
    ctcCheckFuncName arg
    checkArgs args

end

/-- A `Field` of the table. -/
structure FormField where
  fieldName : SqlText
  isVirtualGcol : Bool

/-- `ctc_get_field_by_name`, with `strcasecmp`. -/
def ctcGetFieldByName (form : List FormField) (name : SqlText) : Option FormField :=
  form.find? fun field => field.fieldName.map Char.toLower == name.map Char.toLower

mutual

/-- `recursively_get_dependency_item`, for one argument: `req_key_part->name` and
`col_item_count`. -/
def dependencyItem (form : List FormField) (st : SqlText × Nat) :
    ExprItem → Reported (SqlText × Nat)
  | .func _ _ args => recursivelyGetDependencyItem form st args
  | .field _ itemName column =>
    if ((ctcGetFieldByName form column).map FormField.isVirtualGcol).getD false then
      .error ["Cantian does not support index on virtual generated column.".toList]
    else if 1 ≤ st.2 then
      .error
        ["Cantian does not support function indexes with multiple columns of arguments.".toList]
    else .ok (itemName, st.2 + 1)
  | .cond _ => .ok st
  | .other _ => .ok st

/-- `recursively_get_dependency_item`. -/
def recursivelyGetDependencyItem (form : List FormField) (st : SqlText × Nat) :
    List ExprItem → Reported (SqlText × Nat)
  | [] => .ok st
  | arg :: args => do
    let st ← dependencyItem form st arg
    recursivelyGetDependencyItem form st args

end

/-! ## Key parts -/

/-- `TcDb__CtcDDLTableKeyPart`; the texts are C strings, `none` for a null pointer. -/
structure ReqKeyPart where
  name : SqlText
  length : Nat
  datatype : Int
  isUnsigned : Bool
  isFunc : Bool
  funcName : SqlText
  funcText : Option SqlText
deriving DecidableEq, Repr

/-- The C string in a cleared block behind `strncpy` of `n` bytes. -/
def strncpyText (n : Nat) (text : SqlText) : SqlText := (text.takeWhile (· ≠ Char.ofNat 0)).take n

/-- The C string behind `snprintf` with the given size. -/
def snprintfText (size : Nat) (text : SqlText) : SqlText := text.take (size - 1)

def unsupportedText : SqlText :=
  "[CTC_CREATE_TABLE]:  CTC do not support this functional index.".toList

/-- `ctc_fill_func_key_part`. -/
def ctcFillFuncKeyPart (printJsonValue : SqlText → Bool → List ExprItem → SqlText)
    (form : List FormField) (expr : ExprItem) (part : ReqKeyPart) : Reported ReqKeyPart :=
  match expr with
  | .field .. =>
    .error ["[CTC_CREATE_TABLE]: CTC do not support this functional index.".toList]
  | .other _ =>
    .error ["[CTC_CREATE_TABLE]: CTC do not support this functional index.".toList]
  | .cond _ => .error ["[CTC_CREATE_TABLE]: There is no functional index.".toList]
  | .func funcName binary args =>
    if args.isEmpty then .error ["[CTC_CREATE_TABLE]: There is no functional index.".toList]
    else do
      ctcCheckFuncName (.func funcName binary args)
      match recursivelyGetDependencyItem form (part.name, 0) args with
      | .error messages => .error (messages ++ [unsupportedText])
      | .ok (name, count) =>
        if count ≠ 1 then .error [unsupportedText]
        else
          return { part with
            isFunc := true
            funcName := funcName
            name := name
            funcText := some (strncpyText (funcTextMaxLen - 1)
              (ctcRewriteExpressionClause printJsonValue (.func funcName binary args))) }

/-- What `ctc_fill_prefix_func_key_part` looks at in a field: its name, and whether it is binary. -/
structure PrefixField where
  fieldName : SqlText
  binary : Bool

/-- The text that `ctc_fill_prefix_func_key_part` prints. -/
def prefixClause (field : PrefixField) (prefixLen : Nat) : SqlText :=
  (if field.binary then "substrb(".toList else "substr(".toList) ++ field.fieldName ++
    ",1,".toList ++ Nat.toDigits 10 prefixLen ++ [')']

/-- `ctc_fill_prefix_func_key_part`. -/
def ctcFillPrefixFuncKeyPart (field : PrefixField) (prefixLen : Nat) (part : ReqKeyPart) :
    ReqKeyPart :=
  { part with
    isFunc := true
    funcName := if field.binary then "substrb".toList else "substr".toList
    funcText := some (snprintfText (funcTextMaxLen - 1) (prefixClause field prefixLen)) }

/-! ## Texts in a block -/

theorem strncpyText_eq_self_iff {n : Nat} {text : SqlText} :
    strncpyText n text = text ↔ text.length ≤ n ∧ Char.ofNat 0 ∉ text := by
  unfold strncpyText
  constructor
  · intro h
    constructor
    · rw [← h]
      exact List.length_take_le _ _
    · intro hmem
      rw [← h] at hmem
      have hne := List.mem_takeWhile_imp (List.mem_of_mem_take hmem)
      simp at hne
  · rintro ⟨hlength, hnul⟩
    have hall : text.takeWhile (· ≠ Char.ofNat 0) = text := by
      rw [List.takeWhile_eq_self_iff]
      intro c hc
      rw [decide_eq_true_eq]
      rintro rfl
      exact hnul hc
    rw [hall, List.take_of_length_le hlength]

theorem snprintfText_eq_self_iff {size : Nat} {text : SqlText} :
    snprintfText size text = text ↔ text.length ≤ size - 1 := by
  constructor
  · intro h
    rw [← h]
    exact List.length_take_le _ _
  · exact List.take_of_length_le

/-! ## Functional key parts -/

/-- The expression passes the checks: a function with arguments, none of the functions in it is
excluded, and there is one column in it. -/
def Indexable (form : List FormField) (part : ReqKeyPart) : ExprItem → Prop
  | .func funcName binary args =>
    args ≠ [] ∧ ctcCheckFuncName (.func funcName binary args) = .ok () ∧
      ∃ name, recursivelyGetDependencyItem form (part.name, 0) args = .ok (name, 1)
  | _ => False

section

variable {printJsonValue : SqlText → Bool → List ExprItem → SqlText} {form : List FormField}
  {expr : ExprItem} {part part' : ReqKeyPart}

/-- What is accepted, and the text that is sent. -/
theorem ctcFillFuncKeyPart_ok (h : ctcFillFuncKeyPart printJsonValue form expr part = .ok part') :
    Indexable form part expr ∧ part'.funcText = some
      (strncpyText (funcTextMaxLen - 1) (ctcRewriteExpressionClause printJsonValue expr)) := by
  cases expr with
  | field _ _ _ => cases h
  | other _ => cases h
  | cond _ => cases h
  | func funcName binary args =>
    rw [ctcFillFuncKeyPart] at h
    cases hargs : args.isEmpty with
    | true =>
      rw [hargs] at h
      cases h
    | false =>
      rw [hargs, if_neg Bool.false_ne_true] at h
      cases hcheck : ctcCheckFuncName (.func funcName binary args) with
      | error messages =>
        rw [hcheck] at h
        cases h
      | ok =>
        rw [hcheck] at h
        cases hdep : recursivelyGetDependencyItem form (part.name, 0) args with
        | error messages =>
          rw [hdep] at h
          cases h
        | ok dep =>
          obtain ⟨name, count⟩ := dep
          rw [hdep] at h
          by_cases hcount : count = 1
          · subst hcount
            cases h
            exact ⟨⟨List.isEmpty_eq_false_iff.mp hargs, hcheck, name, hdep⟩, rfl⟩
          · change (if count ≠ 1 then _ else _) = _ at h
            rw [if_pos hcount] at h
            cases h

theorem Indexable.accepted (h : Indexable form part expr)
    (printJsonValue : SqlText → Bool → List ExprItem → SqlText) :
    ∃ part', ctcFillFuncKeyPart printJsonValue form expr part = .ok part' := by
  cases expr with
  | field _ _ _ => exact h.elim
  | other _ => exact h.elim
  | cond _ => exact h.elim
  | func funcName binary args =>
    obtain ⟨hargs, hcheck, name, hdep⟩ := h
    rw [ctcFillFuncKeyPart, List.isEmpty_eq_false_iff.mpr hargs, hcheck, hdep]
    exact ⟨_, rfl⟩

/-- The text of a functional key part is sent whole if it has no terminator in it and there is room
for one behind it. -/
theorem funcKeyPart_whole_iff (printJsonValue : SqlText → Bool → List ExprItem → SqlText)
    (form : List FormField) (expr : ExprItem) (part : ReqKeyPart) :
    (∀ part', ctcFillFuncKeyPart printJsonValue form expr part = .ok part' →
      part'.funcText = some (ctcRewriteExpressionClause printJsonValue expr)) ↔
    (Indexable form part expr →
      (ctcRewriteExpressionClause printJsonValue expr).length < funcTextMaxLen ∧
        Char.ofNat 0 ∉ ctcRewriteExpressionClause printJsonValue expr) := by
  have hroom : (ctcRewriteExpressionClause printJsonValue expr).length < funcTextMaxLen ↔
      (ctcRewriteExpressionClause printJsonValue expr).length ≤ funcTextMaxLen - 1 := by
    unfold funcTextMaxLen
    omega
  rw [hroom, ← strncpyText_eq_self_iff]
  constructor
  · intro h hindexable
    obtain ⟨part', hpart'⟩ := hindexable.accepted printJsonValue
    obtain ⟨-, htext⟩ := ctcFillFuncKeyPart_ok hpart'
    exact Option.some.inj (htext.symm.trans (h part' hpart'))
  · intro h part' hpart'
    obtain ⟨hindexable, htext⟩ := ctcFillFuncKeyPart_ok hpart'
    rw [htext, h hindexable]

end

/-- **The text of a key part is sent whole** exactly if it fits: a functional one with its
terminator, a prefix one with its terminator and one byte more. -/
theorem funcText_whole_iff (printJsonValue : SqlText → Bool → List ExprItem → SqlText)
    (form : List FormField) (expr : ExprItem) (field : PrefixField) (prefixLen : Nat)
    (part : ReqKeyPart) :
    ((∀ part', ctcFillFuncKeyPart printJsonValue form expr part = .ok part' →
      part'.funcText = some (ctcRewriteExpressionClause printJsonValue expr)) ↔
    (Indexable form part expr →
      (ctcRewriteExpressionClause printJsonValue expr).length < funcTextMaxLen ∧
        Char.ofNat 0 ∉ ctcRewriteExpressionClause printJsonValue expr)) ∧
    ((ctcFillPrefixFuncKeyPart field prefixLen part).funcText =
      some (prefixClause field prefixLen) ↔
    (prefixClause field prefixLen).length + 1 < funcTextMaxLen) := by
  refine ⟨funcKeyPart_whole_iff printJsonValue form expr part, ?_⟩
  rw [ctcFillPrefixFuncKeyPart, Option.some.injEq, snprintfText_eq_self_iff]
  unfold funcTextMaxLen
  omega

/-- A key part that nothing is filled in. -/
def emptyPart : ReqKeyPart := ⟨[], 0, 0, false, false, [], some []⟩

/-- `concat(c, '...')` with a literal of 128 bytes. -/
def longConcat : ExprItem :=
  .func "concat".toList false [.field ['c'] ['c'] ['c'], .other (List.replicate 128 'x')]

theorem indexable_longConcat : Indexable [] emptyPart longConcat :=
  ⟨List.cons_ne_nil _ _, rfl, ['c'], rfl⟩

/-- The end of a long literal is cut off. -/
theorem longConcat_cut :
    ¬∀ part', ctcFillFuncKeyPart (fun _ _ _ => []) [] longConcat emptyPart = .ok part' →
      part'.funcText = some (ctcRewriteExpressionClause (fun _ _ _ => []) longConcat) := by
  rw [funcKeyPart_whole_iff]
  intro h
  have hlength := (h indexable_longConcat).1
  have htext : ctcRewriteExpressionClause (fun _ _ _ => []) longConcat =
      "concat(c,".toList ++ List.replicate 128 'x' ++ [')'] := rfl
  rw [htext, List.length_append, List.length_append, List.length_replicate] at hlength
  exact absurd hlength (by decide)

end CantianConnector.Ddl
