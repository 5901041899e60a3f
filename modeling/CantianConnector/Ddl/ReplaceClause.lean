import CantianConnector.Ddl.ReplacePattern

/-!
# The removal of a REPLACE clause

The current password stands in a clause `REPLACE 'literal'` of ALTER USER and SET PASSWORD.
`ctc_remove_replace_clause4sql` takes it out of the text with a regular expression that knows
nothing of literals: `.*` runs to the last quote of the line, the keyword needs a blank on both
sides, and a literal or a name may hold what looks like a clause.
-/

namespace CantianConnector.Ddl

open Replacement

/-- The result is that of the pieces. -/
theorem ctcRemoveReplaceClause4sql_eq_outputs (text : SqlText) :
    ctcRemoveReplaceClause4sql text = outputs " ".toList (pieces replaceRest text) := by
  have hloop : ∀ n prefixText text, regexReplaceLoop replacePattern " ".toList n prefixText text =
      outputs " ".toList (piecesLoop replaceRest n text) := by
    intro n
    induction n with
    | zero =>
      intro prefixText text
      rw [regexReplaceLoop, piecesLoop, outputs_keptPieces]
    | succ n ih =>
      intro prefixText text
      cases text with
      | nil => rfl
      | cons c text =>
        unfold regexReplaceLoop piecesLoop replaceRest
        cases replacePattern (c :: text) with
        | some found =>
          dsimp only [Option.map_some]
          rw [ih]
          rfl
        | none =>
          dsimp only [Option.map_none]
          rw [ih]
          rfl
  exact hloop _ _ _

theorem scan_replaceRest (text : SqlText) : Scan ClauseAt text (pieces replaceRest text) :=
  clauseAt_lawful.scan_pieces replaceRest_eq_some_iff text

/-! ## Statements with a clause -/

/-- The text of a statement with a clause. `front` ends with the token before it. -/
structure ReplaceStatement where
  front : SqlText
  sep : SqlText
  clause : ReplaceClause
  behind : SqlText
  sep_blank : Blank sep
  front_end : ∀ c, front.getLast? = some c → isSpace c = false

namespace ReplaceStatement

variable (s : ReplaceStatement)

/-- The part from the clause on. -/
def tail : SqlText := s.clause.text ++ s.behind

def text : SqlText := s.front ++ (s.sep ++ s.tail)

/-- Exactly the clause goes: of the characters of the text those of the clause are taken out, up to
white space, and what is left has white space in its place. -/
def RemovesExactly : Prop :=
  Exact isSpace (pieces replaceRest s.text) s.front (s.sep ++ s.clause.text) s.behind ∧
    ∃ blanks, Blank blanks ∧ blanks ≠ [] ∧
      ctcRemoveReplaceClause4sql s.text = s.front ++ (blanks ++ s.behind)

/-- The pattern matches nowhere from a character of `front` on. -/
def FrontQuiet : Prop :=
  ∀ x y, s.front = x ++ y → y ≠ [] → ∀ rest, ¬ClauseAt (y ++ (s.sep ++ s.tail)) rest

/-- A blank behind the keyword, a literal on one line, and no such quote behind it on that line. -/
def OneLine : Prop :=
  s.clause.gap.head? = some ' ' ∧ (∀ c ∈ s.clause.body, lineBreak c = false) ∧
    s.clause.quote ∉ line s.behind

/-- A literal of several lines that is itself made of what the pattern matches. -/
def Lines : Prop :=
  (∃ c ∈ s.clause.body, lineBreak c = true) ∧ Consumed ClauseAt isSpace s.behind (' ' :: s.tail)

/-- When the clause is removed and nothing else. -/
structure Meets : Prop where
  front : s.FrontQuiet
  blank : ' ' ∈ s.sep
  clause : s.OneLine ∨ s.Lines
  behind : Quiet ClauseAt s.behind

end ReplaceStatement

/-! ## The matches at the clause -/

theorem exists_blank_of_consumed {text behind : SqlText}
    (h : Consumed ClauseAt isSpace behind text) : ∃ rest, text = ' ' :: rest := by
  cases h with
  | last hclause =>
    obtain ⟨gap, c, more, rfl, -, -⟩ := hclause.exists_first
    exact ⟨_, rfl⟩
  | next hclause _ _ =>
    obtain ⟨gap, c, more, rfl, -, -⟩ := hclause.exists_first
    exact ⟨_, rfl⟩

/-- White space behind the first blank plays no part. -/
theorem consumed_blank_iff {gap : SqlText} (hgap : Blank gap) {c : Char} (hc : isSpace c = false)
    {text behind : SqlText} : Consumed ClauseAt isSpace behind (' ' :: (gap ++ c :: text)) ↔
      Consumed ClauseAt isSpace behind (' ' :: c :: text) := by
  constructor
  · intro h
    cases h with
    | last hclause => exact Consumed.last ((clauseAt_blank_iff hgap hc).mp hclause)
    | next hclause hgap' hrest =>
      exact Consumed.next ((clauseAt_blank_iff hgap hc).mp hclause) hgap' hrest
  · intro h
    cases h with
    | last hclause => exact Consumed.last ((clauseAt_blank_iff hgap hc).mpr hclause)
    | next hclause hgap' hrest =>
      exact Consumed.next ((clauseAt_blank_iff hgap hc).mpr hclause) hgap' hrest

/-- A text that begins with a blank, in white space and another character. -/
theorem exists_blank_split {sep gap text rest : SqlText} {c : Char} (hgap : Blank gap)
    (hc : isSpace c = false) (h : sep ++ c :: text = gap ++ ' ' :: rest) :
    ∃ gap', sep = gap ++ ' ' :: gap' ∧ rest = gap' ++ c :: text := by
  rcases List.append_eq_append_iff.mp h with ⟨x, rfl, hx⟩ | ⟨x, rfl, hx⟩
  · cases x with
    | nil =>
      rw [show c = ' ' from (List.cons.inj hx).1] at hc
      cases hc
    | cons d x =>
      obtain rfl := (List.cons.inj hx).1
      rw [hgap c (List.mem_append_right _ List.mem_cons_self)] at hc
      cases hc
  · cases x with
    | nil =>
      have hblank : ' ' = c := (List.cons.inj hx).1
      rw [← hblank] at hc
      cases hc
    | cons d x =>
      obtain ⟨rfl, rfl⟩ := List.cons.inj hx
      exact ⟨x, rfl, rfl⟩

namespace ReplaceStatement

variable {s : ReplaceStatement}

theorem exists_tail : ∃ c more, s.tail = c :: more ∧ isSpace c = false := by
  obtain ⟨c, more, hclause, hc⟩ := s.clause.text_eq s.behind
  exact ⟨c, more ++ s.behind, hclause, hc⟩

theorem clauseAt_tail (h : s.OneLine) : ClauseAt (' ' :: s.tail) s.behind :=
  ⟨[], s.clause, rfl, blank_nil, h⟩

/-- A match at a clause whose literal is on one line ends with this literal or behind it. -/
theorem oneLine_of_clauseAt {rest : SqlText} (hbody : ∀ c ∈ s.clause.body, lineBreak c = false)
    (hle : s.behind.length ≤ rest.length) (h : ClauseAt (' ' :: s.tail) rest) : s.OneLine := by
  obtain ⟨gap, clause, htext, hgap, hhead, hline, hlast⟩ := h
  obtain ⟨c, _, hclause, hc⟩ := clause.text_eq rest
  obtain ⟨d, more, htail, hd⟩ := s.exists_tail
  have hwhole := (List.cons.inj htext).2
  have hgap' : gap = [] := by
    rw [htail, hclause] at hwhole
    exact (blanks_append_inj blank_nil hgap hd hc hwhole).1.symm
  rw [hgap', List.nil_append] at hwhole
  obtain ⟨hgaps, hquotes, hbodies⟩ := ReplaceClause.text_append_inj hwhole
  refine ⟨by rw [hgaps]; exact hhead, hbody, ?_⟩
  rw [hquotes] at hbodies ⊢
  rcases List.append_eq_append_iff.mp hbodies with ⟨x, hx, hx'⟩ | ⟨x, hx, hx'⟩
  · -- the match takes at least the literal
    cases x with
    | nil =>
      rw [List.nil_append] at hx'
      rw [(List.cons.inj hx').2]
      exact hlast
    | cons e x =>
      have hlength := congrArg List.length hx'
      simp only [List.length_cons, List.length_append] at hlength
      omega
  · cases x with
    | nil =>
      rw [List.nil_append] at hx'
      rw [← (List.cons.inj hx').2]
      exact hlast
    | cons e x =>
      -- a shorter match leaves a quote on its line
      have hrest : rest = x ++ clause.quote :: s.behind := (List.cons.inj hx').2
      rw [hrest] at hlast
      refine absurd (mem_line_append clause.lineBreak_quote s.behind fun d hd => hbody d ?_) hlast
      rw [hx]
      exact List.mem_append_right _ (List.mem_cons_of_mem _ hd)

theorem consumed_tail_iff :
    Consumed ClauseAt isSpace s.behind (' ' :: s.tail) ↔ s.OneLine ∨ s.Lines := by
  constructor
  · intro h
    by_cases hbody : ∀ c ∈ s.clause.body, lineBreak c = false
    · left
      cases h with
      | last hclause => exact oneLine_of_clauseAt hbody (Nat.le_refl _) hclause
      | next hclause _ hrest =>
        refine oneLine_of_clauseAt hbody ?_ hclause
        have hlt := hrest.length_lt clauseAt_lawful
        rw [List.length_append]
        omega
    · right
      refine ⟨?_, h⟩
      by_contra hnone
      refine hbody fun c hc => ?_
      cases hbreak : lineBreak c with
      | false => rfl
      | true => exact absurd ⟨c, hc, hbreak⟩ hnone
  · rintro (h | h)
    · exact Consumed.last (clauseAt_tail h)
    · exact h.2

/-- The matches that take the clause begin with a blank in front of it. -/
theorem consumed_sep_iff : (∃ gap rest, s.sep ++ s.tail = gap ++ rest ∧ Blank gap ∧
    Consumed ClauseAt isSpace s.behind rest) ↔ ' ' ∈ s.sep ∧ (s.OneLine ∨ s.Lines) := by
  obtain ⟨c, more, htail, hc⟩ := s.exists_tail
  rw [← consumed_tail_iff]
  constructor
  · rintro ⟨gap, rest, hsplit, hgap, hconsumed⟩
    obtain ⟨rest', rfl⟩ := exists_blank_of_consumed hconsumed
    rw [htail] at hsplit
    obtain ⟨gap', hsep, rfl⟩ := exists_blank_split hgap hc hsplit
    have hgap' : Blank gap' := fun d hd => s.sep_blank d (by
      rw [hsep]
      exact List.mem_append_right _ (List.mem_cons_of_mem _ hd))
    rw [consumed_blank_iff hgap' hc, ← htail] at hconsumed
    refine ⟨?_, hconsumed⟩
    rw [hsep]
    exact List.mem_append_right _ List.mem_cons_self
  · rintro ⟨hmem, hconsumed⟩
    obtain ⟨start, gap, hsep⟩ := List.append_of_mem hmem
    have hblank : Blank (start ++ ' ' :: gap) := by
      rw [← hsep]
      exact s.sep_blank
    refine ⟨start, ' ' :: (gap ++ s.tail), ?_, fun d hd => hblank d (List.mem_append_left _ hd), ?_⟩
    · rw [hsep, List.append_assoc]
      rfl
    · have hgap : Blank gap := fun d hd =>
        hblank d (List.mem_append_right _ (List.mem_cons_of_mem _ hd))
      rw [htail] at hconsumed ⊢
      exact (consumed_blank_iff hgap hc).mpr hconsumed

/-- A clause ends with its quote. -/
theorem exists_clause_last : ∃ front, s.sep ++ s.clause.text = front ++ [s.clause.quote] :=
  ⟨s.sep ++ (s.clause.keyword ++ (s.clause.gap ++ s.clause.quote :: s.clause.body)), by
    simp [ReplaceClause.text, ReplaceClause.literal]⟩

theorem removesExactly_iff : s.RemovesExactly ↔ s.Meets := by
  have hsplit : s.sep ++ s.tail = s.sep ++ s.clause.text ++ s.behind :=
    (List.append_assoc _ _ _).symm
  have hscan := scan_replaceRest s.text
  unfold text at hscan
  rw [hsplit] at hscan
  obtain ⟨front, hlast⟩ := s.exists_clause_last
  have hne : s.sep ++ s.clause.text ≠ [] := by
    rw [hlast]
    exact List.concat_ne_nil _ _
  have hend : ∀ c, (s.sep ++ s.clause.text).getLast? = some c → isSpace c = false := by
    intro c hc
    rw [hlast, List.getLast?_concat] at hc
    obtain rfl := Option.some.inj hc
    exact s.clause.isSpace_quote
  have hfill : Blank " ".toList := blank_cons_iff.mpr ⟨rfl, blank_nil⟩
  have hexact := hscan.exact_iff clauseAt_lawful hfill (List.cons_ne_nil _ _) s.front_end hne hend
  unfold RemovesExactly
  rw [ctcRemoveReplaceClause4sql_eq_outputs]
  unfold text
  rw [hsplit]
  refine hexact.trans ⟨fun h => ?_, fun h => ?_⟩
  · obtain ⟨hfront, htext, hbehind⟩ := h
    rw [← hsplit] at hfront htext
    obtain ⟨hblank, hclause⟩ := consumed_sep_iff.mp htext
    exact ⟨hfront, hblank, hclause, hbehind⟩
  · refine ⟨?_, ?_, h.behind⟩
    · rw [← hsplit]
      exact h.front
    · rw [← hsplit]
      exact consumed_sep_iff.mpr ⟨h.blank, h.clause⟩

end ReplaceStatement

/-! ## The removal -/

/-- The text of ALTER USER or SET PASSWORD. -/
inductive PasswordText
  | plain (text : SqlText)
  | withClause (statement : ReplaceStatement)

/-- A text without a clause is left as it is, and of one with a clause exactly this goes. -/
def PasswordText.RemovalRight : PasswordText → Prop
  | .plain text => ctcRemoveReplaceClause4sql text = text
  | .withClause statement => statement.RemovesExactly

def PasswordText.RemovalMeets : PasswordText → Prop
  | .plain text => Quiet ClauseAt text
  | .withClause statement => statement.Meets

/-- **The removal** is right for the texts of `RemovalMeets`. -/
theorem removalRight_iff (t : PasswordText) : t.RemovalRight ↔ t.RemovalMeets := by
  cases t with
  | plain text =>
    show ctcRemoveReplaceClause4sql text = text ↔ Quiet ClauseAt text
    rw [ctcRemoveReplaceClause4sql_eq_outputs]
    have hscan := scan_replaceRest text
    constructor
    · exact hscan.quiet_of_outputs clauseAt_lawful fun text rest h => h.length_lt
    · intro h
      rw [hscan.unique clauseAt_lawful h.scan, outputs_keptPieces]
  | withClause s => exact ReplaceStatement.removesExactly_iff

/-- A statement for two users, with a literal behind the clause. -/
def twoUsers : ReplaceStatement where
  front := "ALTER USER a IDENTIFIED BY 'x".toList ++ [singleQuote]
  sep := [' ']
  clause :=
    { keyword := "REPLACE".toList
      gap := [' ']
      quote := singleQuote
      body := ['y']
      keyword_eq := rfl
      gap_blank := blank_cons_iff.mpr ⟨rfl, blank_nil⟩
      quote_eq := Or.inr rfl }
  behind := ", b IDENTIFIED BY 'z'".toList
  sep_blank := blank_cons_iff.mpr ⟨rfl, blank_nil⟩
  front_end := by
    intro c hc
    rw [List.getLast?_concat] at hc
    obtain rfl := Option.some.inj hc
    rfl

/-- The match goes up to the last quote of the line, which takes the second user with it. -/
theorem not_removalRight :
    ctcRemoveReplaceClause4sql twoUsers.text = "ALTER USER a IDENTIFIED BY 'x' ".toList ∧
      ¬(PasswordText.withClause twoUsers).RemovalRight := by
  have hremoved : ctcRemoveReplaceClause4sql twoUsers.text =
      "ALTER USER a IDENTIFIED BY 'x' ".toList := by decide
  refine ⟨hremoved, fun hright => ?_⟩
  obtain ⟨-, blanks, -, -, hexact⟩ := hright
  have hlength := congrArg List.length (hremoved.symm.trans hexact)
  rw [List.length_append, List.length_append] at hlength
  have hfront : twoUsers.front.length = 30 := by decide
  have hbehind : twoUsers.behind.length = 21 := by decide
  have hwhole : "ALTER USER a IDENTIFIED BY 'x' ".toList.length = 31 := by decide
  omega

end CantianConnector.Ddl
