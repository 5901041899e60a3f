import Mathlib.Data.List.Basic

/-!
# Rewriting the text of a statement

The text of a statement is a list of bytes. `std::regex_replace` is called with three fixed
patterns. In each of them the spaces that `\s*` matches are followed by something that is not a
space, and a quoted text extends to the last quote of its line, so that there is one way to match at
a given place.
-/

namespace CantianConnector.Ddl

abbrev SqlText := List Char

def backslash : Char := Char.ofNat 92

def singleQuote : Char := Char.ofNat 39

def doubleQuote : Char := Char.ofNat 34

def backquote : Char := Char.ofNat 96

/-! ## Patterns -/

/-- `\s`. -/
def isSpace (c : Char) : Bool := c.toNat = 32 || (9 ≤ c.toNat && c.toNat ≤ 13)

/-- `\s*`. -/
def skipSpaces (text : SqlText) : SqlText := text.dropWhile isSpace

/-- The letters of a word, in either case. -/
def matchWord : SqlText → SqlText → Option SqlText
  | [], text => some text
  | _ :: _, [] => none
  | w :: word, c :: text => if w.toLower = c.toLower then matchWord word text else none

/-- `.*` and a quote behind it. -/
def matchToLastQuote (quote : Char) : SqlText → Option SqlText
  | [] => none
  | c :: text =>
    match matchToLastQuote quote text with
    | some rest => if c = '\n' ∨ c = '\r' then none else some rest
    | none => if c = quote then some text else none

/-- A match: what is behind it, and what the groups of the pattern have captured. -/
structure Match where
  rest : SqlText
  groups : List SqlText

/-- The part of a text before what is left of it. -/
def before (text rest : SqlText) : SqlText := text.take (text.length - rest.length)

/-- The pattern of `ctc_remove_replace_clause4sql`. -/
def replacePattern (text : SqlText) : Option Match := do
  let text ← matchWord " ".toList text
  let text ← matchWord "replace ".toList (skipSpaces text)
  match skipSpaces text with
  | [] => none
  | quote :: quoted =>
    if quote = doubleQuote ∨ quote = singleQuote then
      let rest ← matchToLastQuote quote quoted
      some ⟨rest, [before (quote :: quoted) rest]⟩
    else none

/-- `current_user_pattern`. -/
def currentUserPattern (text : SqlText) : Option Match := do
  let text ← matchWord " ".toList text
  let rest ← matchWord "current_user() ".toList (skipSpaces text)
  some ⟨rest, []⟩

/-- `add_or_rewrite_for_pattern`, without its `^`. -/
def addOrRewriteForPattern (text : SqlText) : Option Match := do
  let text ← matchWord "set ".toList text
  let text ← matchWord "password".toList (skipSpaces text)
  let text := skipSpaces text
  if (matchWord "to".toList text).isSome ∨ (matchWord "=".toList text).isSome then
    some ⟨text, [[]]⟩
  else
    let rest ← matchWord "for ".toList text
    let rest ← matchWord "current_user()".toList (skipSpaces rest)
    some ⟨rest, [before text rest]⟩

/-! ## Replacement -/

/-- What a format refers to. -/
structure MatchContext where
  prefixText : SqlText
  matched : SqlText
  found : Match

/-- `$n`. -/
def MatchContext.group (ctx : MatchContext) (n : Nat) : SqlText :=
  if n = 0 then ctx.matched else ctx.found.groups.getD (n - 1) []

def digit (c : Char) : Nat := c.toNat - 48

/-- The default format of `std::regex_replace`. -/
def formatMatch (ctx : MatchContext) : SqlText → SqlText
  | [] => []
  | [c] => [c]
  | c :: d :: fmt =>
    if c ≠ '$' then c :: formatMatch ctx (d :: fmt)
    else if d = '$' then '$' :: formatMatch ctx fmt
    else if d = '&' then ctx.matched ++ formatMatch ctx fmt
    else if d = backquote then ctx.prefixText ++ formatMatch ctx fmt
    else if d = singleQuote then ctx.found.rest ++ formatMatch ctx fmt
    else if d.isDigit then
      match fmt with
      | e :: fmt' =>
        if e.isDigit then ctx.group (10 * digit d + digit e) ++ formatMatch ctx fmt'
        else ctx.group (digit d) ++ formatMatch ctx (e :: fmt')
      | [] => ctx.group (digit d)
    else '$' :: formatMatch ctx (d :: fmt)

/-- The loop of `std::regex_replace`; `prefixText` is the text since the last match. A match is not
empty, so that there are at most as many as there are bytes. -/
def regexReplaceLoop (pattern : SqlText → Option Match) (fmt : SqlText) :
    Nat → SqlText → SqlText → SqlText
  | 0, _, text => text
  | _ + 1, _, [] => []
  | n + 1, prefixText, c :: text =>
    match pattern (c :: text) with
    | some found =>
      formatMatch ⟨prefixText, before (c :: text) found.rest, found⟩ fmt ++
        regexReplaceLoop pattern fmt n [] found.rest
    | none => c :: regexReplaceLoop pattern fmt n (prefixText ++ [c]) text

def regexReplace (pattern : SqlText → Option Match) (fmt text : SqlText) : SqlText :=
  regexReplaceLoop pattern fmt text.length [] text

theorem regexReplaceLoop_eq_self {pattern : SqlText → Option Match} (fmt : SqlText)
    {text : SqlText} (hnone : ∀ rest, rest <:+ text → pattern rest = none) (n : Nat)
    (prefixText : SqlText) : regexReplaceLoop pattern fmt n prefixText text = text := by
  induction n generalizing prefixText text with
  | zero => rfl
  | succ n ih =>
    cases text with
    | nil => rfl
    | cons c text =>
      rw [regexReplaceLoop, hnone _ List.suffix_rfl]
      dsimp only
      rw [ih fun rest hsuffix => hnone rest (hsuffix.trans (List.suffix_cons c text))]

/-- A text in which the pattern matches nowhere is left as it is. -/
theorem regexReplace_eq_self {pattern : SqlText → Option Match} (fmt : SqlText) {text : SqlText}
    (hnone : ∀ rest, rest <:+ text → pattern rest = none) :
    regexReplace pattern fmt text = text := regexReplaceLoop_eq_self fmt hnone _ _

/-- `std::regex_replace` with a pattern that starts with `^`. -/
def regexReplaceAtStart (pattern : SqlText → Option Match) (fmt text : SqlText) : SqlText :=
  match pattern text with
  | some found => formatMatch ⟨[], before text found.rest, found⟩ fmt ++ found.rest
  | none => text

/-- `ctc_remove_replace_clause4sql`. -/
def ctcRemoveReplaceClause4sql (sqlStr : SqlText) : SqlText :=
  regexReplace replacePattern " ".toList sqlStr

/-! ## User names -/

/-- A special character, as an escape sequence. -/
def deserilizeChar (c : Char) : SqlText :=
  if c = '\n' then [backslash, 'n']
  else if c = '\t' then [backslash, 't']
  else if c = '\r' then [backslash, 'r']
  else if c.toNat = 8 then [backslash, 'b']
  else if c.toNat = 26 then [backslash, 'Z']
  else [c]

/-- The loop of `ctc_deserilize_get_text`. -/
def deserilizeLoop : SqlText → SqlText
  | [] => []
  | [c] => deserilizeChar c
  | c :: d :: name =>
    if c = backslash then
      if d = '_' ∨ d = '%' then c :: d :: deserilizeLoop name
      else c :: c :: deserilizeLoop (d :: name)
    else deserilizeChar c ++ deserilizeLoop (d :: name)

/-- `ctc_deserilize_get_text`. -/
def ctcDeserilizeGetText (noBackslashEscapes : Bool) (name : SqlText) : SqlText :=
  if noBackslashEscapes then deserilizeLoop name else name

/-- `ctc_escape_single_quotation_str`. -/
def ctcEscapeSingleQuotationStr (src : SqlText) : SqlText :=
  src.flatMap fun c => if c = singleQuote then [backslash, c] else [c]

/-- `ctc_deserilize_username_with_single_quotation`. -/
def ctcDeserilizeUsernameWithSingleQuotation (noBackslashEscapes : Bool) (src : SqlText) :
    SqlText :=
  ctcEscapeSingleQuotationStr (ctcDeserilizeGetText noBackslashEscapes src)

end CantianConnector.Ddl
