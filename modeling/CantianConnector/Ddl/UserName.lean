import CantianConnector.Ddl.SqlText

/-!
# User names in a rewritten statement

`ctc_deserilize_username_with_single_quotation` writes a user name as the text of a literal, in two
passes: the first escapes what `get_text` would read differently, the second the quotes. A text
that is read back as a name can be put before any other (`Reads`), so the passes are compared with
`get_text` one character at a time. Only a backslash at the end of the name is not escaped, and the
quote that should close the literal is then part of it (`readsBack_iff`).
-/

namespace CantianConnector.Ddl

/-! ## `get_text` -/

/-- What `get_text` makes of a backslash and a character. -/
def unescape (c : Char) : SqlText :=
  if c = 'n' then ['\n']
  else if c = 't' then ['\t']
  else if c = 'r' then ['\r']
  else if c = 'b' then [Char.ofNat 8]
  else if c = '0' then [Char.ofNat 0]
  else if c = 'Z' then [Char.ofNat 26]
  else if c = '_' ∨ c = '%' then [backslash, c]
  else [c]

/-- The server's `get_text` with backslash escapes, behind the opening quote `sep`: the value of
the literal and what follows it, or `none` for a literal that is not closed. -/
def getText (sep : Char) : SqlText → Option (SqlText × SqlText)
  | [] => none
  | [c] => if c = backslash then none else if c = sep then some ([], []) else none
  | c :: d :: text =>
    if c = backslash then
      (getText sep text).map fun (value, rest) => (unescape d ++ value, rest)
    else if c = sep then
      if d = sep then (getText sep text).map fun (value, rest) => (sep :: value, rest)
      else some ([], d :: text)
    else (getText sep (d :: text)).map fun (value, rest) => (c :: value, rest)

/-- Between single quotes the text is one literal with this value, whatever follows that is not
another quote. -/
def ReadsBack (text value : SqlText) : Prop :=
  ∀ rest, rest.head? ≠ some singleQuote →
    getText singleQuote (text ++ singleQuote :: rest) = some (value, rest)

/-! ## Reading piece by piece -/

/-- `get_text` reads the text as this value and goes on with what follows. -/
def Reads (text value : SqlText) : Prop :=
  ∀ rest, getText singleQuote (text ++ rest) =
    (getText singleQuote rest).map fun (tail, behind) => (value ++ tail, behind)

theorem reads_nil : Reads [] [] := by
  intro rest
  simp

theorem Reads.append {text text' value value' : SqlText} (h : Reads text value)
    (h' : Reads text' value') : Reads (text ++ text') (value ++ value') := by
  intro rest
  rw [List.append_assoc, h, h', Option.map_map]
  simp only [Function.comp_def, List.append_assoc]

/-- A character behind a backslash. -/
theorem reads_escape (c : Char) : Reads [backslash, c] (unescape c) := by
  intro rest
  show getText singleQuote (backslash :: c :: rest) = _
  rw [getText, if_pos rfl]

/-- A character of its own. -/
theorem reads_char {c : Char} (hback : c ≠ backslash) (hquote : c ≠ singleQuote) :
    Reads [c] [c] := by
  intro rest
  cases rest with
  | nil => simp [getText, hback, hquote]
  | cons d rest =>
    show getText singleQuote (c :: d :: rest) = _
    rw [getText, if_neg hback, if_neg hquote]
    rfl

/-! ## The two passes -/

theorem escape_append (text text' : SqlText) :
    ctcEscapeSingleQuotationStr (text ++ text') =
      ctcEscapeSingleQuotationStr text ++ ctcEscapeSingleQuotationStr text' :=
  List.flatMap_append

theorem escape_cons {c : Char} (hc : c ≠ singleQuote) (text : SqlText) :
    ctcEscapeSingleQuotationStr (c :: text) = c :: ctcEscapeSingleQuotationStr text := by
  unfold ctcEscapeSingleQuotationStr
  rw [List.flatMap_cons, if_neg hc]
  rfl

/-- The character that an escape sequence stands for, if the second pass leaves it alone. -/
theorem reads_sequence {c d : Char} (hd : d ≠ singleQuote) (hvalue : unescape d = [c]) :
    Reads (ctcEscapeSingleQuotationStr [backslash, d]) [c] := by
  rw [escape_cons (by decide), escape_cons hd, ← hvalue]
  exact reads_escape d

/-- **Step:** a character that is not a backslash, after both passes. -/
theorem reads_deserilizeChar {c : Char} (hback : c ≠ backslash) :
    Reads (ctcEscapeSingleQuotationStr (deserilizeChar c)) [c] := by
  unfold deserilizeChar
  split
  case isTrue h => exact h ▸ reads_sequence (by decide) rfl
  split
  case isTrue h => exact h ▸ reads_sequence (by decide) rfl
  split
  case isTrue h => exact h ▸ reads_sequence (by decide) rfl
  split
  case isTrue h =>
    have hc : c = Char.ofNat 8 := by rw [← h, Char.ofNat_toNat]
    exact hc ▸ reads_sequence (by decide) rfl
  split
  case isTrue h =>
    have hc : c = Char.ofNat 26 := by rw [← h, Char.ofNat_toNat]
    exact hc ▸ reads_sequence (by decide) rfl
  by_cases hquote : c = singleQuote
  · subst hquote
    exact reads_escape singleQuote
  · rw [escape_cons hquote]
    exact reads_char hback hquote

/-- **Step:** a backslash with the wildcard behind it. -/
theorem reads_wildcard {d : Char} (hd : d = '_' ∨ d = '%') :
    Reads (ctcEscapeSingleQuotationStr [backslash, d]) [backslash, d] := by
  rcases hd with rfl | rfl
  · exact reads_escape '_'
  · exact reads_escape '%'

/-- **Step:** a backslash before anything else. -/
theorem reads_backslash :
    Reads (ctcEscapeSingleQuotationStr [backslash, backslash]) [backslash] :=
  reads_sequence (by decide) rfl

/-- **Run:** a name that does not end with a backslash is read back. The induction is that of the
first pass, which looks one character ahead. -/
theorem reads_deserilize {name : SqlText} (hname : name.getLast? ≠ some backslash) :
    Reads (ctcEscapeSingleQuotationStr (deserilizeLoop name)) name := by
  induction name using deserilizeLoop.induct with
  | case1 => exact reads_nil
  | case2 c => exact reads_deserilizeChar fun hc => hname (by rw [hc]; rfl)
  | case3 d name hd ih =>
    have hrest : name.getLast? ≠ some backslash := by
      cases name with
      | nil => simp
      | cons e name => simpa using hname
    rw [deserilizeLoop, if_pos rfl, if_pos hd]
    exact escape_append [backslash, d] _ ▸ (reads_wildcard hd).append (ih hrest)
  | case4 d name hd ih =>
    rw [deserilizeLoop, if_pos rfl, if_neg hd]
    exact escape_append [backslash, backslash] _ ▸ reads_backslash.append (ih (by simpa using hname))
  | case5 c d name hc ih =>
    rw [deserilizeLoop, if_neg hc, escape_append]
    exact (reads_deserilizeChar hc).append (ih (by simpa using hname))

/-- **Run:** the backslash at the end of a name is left alone. -/
theorem deserilize_backslash {name : SqlText} (hname : name.getLast? = some backslash) :
    ∃ text value, Reads text value ∧
      ctcEscapeSingleQuotationStr (deserilizeLoop name) = text ++ [backslash] := by
  induction name using deserilizeLoop.induct with
  | case1 => cases hname
  | case2 c =>
    rw [List.getLast?_singleton, Option.some.injEq] at hname
    exact ⟨[], [], reads_nil, by rw [hname]; rfl⟩
  | case3 d name hd ih =>
    have hrest : name.getLast? = some backslash := by
      cases name with
      | nil => rcases hd with rfl | rfl <;> cases hname
      | cons e name => simpa using hname
    obtain ⟨text, value, hreads, htext⟩ := ih hrest
    refine ⟨_, _, (reads_wildcard hd).append hreads, ?_⟩
    rw [deserilizeLoop, if_pos rfl, if_pos hd, List.append_assoc, ← htext, ← escape_append]
    rfl
  | case4 d name hd ih =>
    obtain ⟨text, value, hreads, htext⟩ := ih (by simpa using hname)
    refine ⟨_, _, reads_backslash.append hreads, ?_⟩
    rw [deserilizeLoop, if_pos rfl, if_neg hd, List.append_assoc, ← htext, ← escape_append]
    rfl
  | case5 c d name hc ih =>
    obtain ⟨text, value, hreads, htext⟩ := ih (by simpa using hname)
    refine ⟨_, _, (reads_deserilizeChar hc).append hreads, ?_⟩
    rw [deserilizeLoop, if_neg hc, escape_append, htext, List.append_assoc]

/-! ## The literal -/

/-- The closing quote ends the literal. -/
theorem Reads.readsBack {text value : SqlText} (h : Reads text value) : ReadsBack text value := by
  intro rest hrest
  have hclose : getText singleQuote (singleQuote :: rest) = some ([], rest) := by
    cases rest with
    | nil => rfl
    | cons d rest =>
      have hd : d ≠ singleQuote := fun hd => hrest (by rw [hd]; rfl)
      rw [getText, if_neg (by decide), if_pos rfl, if_neg hd]
  rw [h, hclose]
  simp

/-- **A user name is read back** in NO_BACKSLASH_ESCAPES mode exactly if it does not end with a
backslash. -/
theorem readsBack_iff (name : SqlText) :
    ReadsBack (ctcDeserilizeUsernameWithSingleQuotation true name) name ↔
      name.getLast? ≠ some backslash := by
  constructor
  · intro hreads hname
    obtain ⟨text, value, hfront, htext⟩ := deserilize_backslash hname
    have hclosed := hreads [] (by decide)
    have hopen : getText singleQuote
        (ctcDeserilizeUsernameWithSingleQuotation true name ++ [singleQuote]) = none := by
      show getText singleQuote
        (ctcEscapeSingleQuotationStr (deserilizeLoop name) ++ [singleQuote]) = none
      rw [htext, List.append_assoc, hfront]
      rfl
    rw [hopen] at hclosed
    cases hclosed
  · intro hname
    exact (reads_deserilize hname).readsBack

/-- The user name `a\`: the literal is not closed. -/
theorem not_readsBack :
    ctcDeserilizeUsernameWithSingleQuotation true ['a', backslash] = ['a', backslash] ∧
      getText singleQuote ['a', backslash, singleQuote] = none ∧
      ¬ReadsBack (ctcDeserilizeUsernameWithSingleQuotation true ['a', backslash])
        ['a', backslash] := by
  refine ⟨rfl, rfl, fun hreads => ?_⟩
  cases hreads [] (by decide)

end CantianConnector.Ddl
