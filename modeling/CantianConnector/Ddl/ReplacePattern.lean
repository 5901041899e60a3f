import CantianConnector.Ddl.SqlText
import CantianConnector.Lib.Replacement

/-!
# The pattern of a REPLACE clause

The regular expression of `ctc_remove_replace_clause4sql` matches a blank, white space, the keyword
with a blank behind it, white space, and a quote with the rest of its line up to the last such
quote. What it leaves does not depend on white space in front.
-/

namespace CantianConnector.Ddl

/-! ## The pattern -/

/-- What `.` does not match. -/
def lineBreak (c : Char) : Bool := c = '\n' || c = '\r'

/-- What is left of the first line of a text. -/
def line (text : SqlText) : SqlText := text.takeWhile fun c => !lineBreak c

/-- White space only. -/
abbrev Blank (text : SqlText) : Prop := ∀ c ∈ text, isSpace c = true

theorem blank_nil : Blank [] := List.forall_mem_nil _

theorem blank_cons_iff {c : Char} {text : SqlText} :
    Blank (c :: text) ↔ isSpace c = true ∧ Blank text := List.forall_mem_cons

theorem toLower_of_isSpace {c : Char} (h : isSpace c = true) : c.toLower = c := by
  unfold Char.toLower
  split
  · next hupper =>
    have h1 : 'A'.val.toNat ≤ c.val.toNat := hupper.1
    have h2 : c.toNat = c.val.toNat := rfl
    have h3 : 'A'.val.toNat = 65 := rfl
    simp only [isSpace, Bool.or_eq_true, Bool.and_eq_true, decide_eq_true_eq] at h
    omega
  · rfl

theorem toLower_eq_space_iff {c : Char} : c.toLower = ' ' ↔ c = ' ' := by
  constructor
  · unfold Char.toLower
    split
    · next hupper =>
      intro h
      have h1 : 65 ≤ c.val.toNat := hupper.1
      have h2 : c.val.toNat ≤ 90 := hupper.2
      have hval : (c.val + 32).toNat = 32 := congrArg (fun d : Char => d.val.toNat) h
      rw [UInt32.toNat_add, show (32 : UInt32).toNat = 32 from rfl] at hval
      omega
    · exact id
  · rintro rfl
    rfl

theorem matchWord_eq_some_iff {word text rest : SqlText} :
    matchWord word text = some rest ↔
      ∃ matched, text = matched ++ rest ∧ matched.map Char.toLower = word.map Char.toLower := by
  induction word generalizing text with
  | nil =>
    simp only [matchWord, Option.some.injEq, List.map_nil, List.map_eq_nil_iff]
    constructor
    · rintro rfl
      exact ⟨[], rfl, rfl⟩
    · rintro ⟨matched, rfl, rfl⟩
      rfl
  | cons w word ih =>
    cases text with
    | nil =>
      simp only [matchWord, reduceCtorEq, false_iff]
      rintro ⟨matched, happend, hmap⟩
      rw [(List.append_eq_nil_iff.mp happend.symm).1] at hmap
      cases hmap
    | cons c text =>
      unfold matchWord
      constructor
      · intro h
        split at h
        · next hc =>
          obtain ⟨matched, rfl, hmap⟩ := ih.mp h
          exact ⟨c :: matched, rfl, by rw [List.map_cons, List.map_cons, hc, hmap]⟩
        · cases h
      · rintro ⟨matched, happend, hmap⟩
        cases matched with
        | nil => cases hmap
        | cons d matched =>
          obtain ⟨rfl, rfl⟩ := List.cons.inj happend
          obtain ⟨hc, hmap⟩ := List.cons.inj hmap
          rw [if_pos hc.symm]
          exact ih.mpr ⟨matched, rfl, hmap⟩

theorem line_cons_of_not_lineBreak {c : Char} (hc : lineBreak c = false) (text : SqlText) :
    line (c :: text) = c :: line text := by
  unfold line
  rw [List.takeWhile_cons, hc]
  rfl

theorem mem_line_append {quote : Char} (hquote : lineBreak quote = false) {text : SqlText}
    (behind : SqlText) (h : ∀ c ∈ text, lineBreak c = false) :
    quote ∈ line (text ++ quote :: behind) := by
  induction text with
  | nil =>
    rw [List.nil_append, line_cons_of_not_lineBreak hquote]
    exact List.mem_cons_self
  | cons c text ih =>
    rw [List.cons_append, line_cons_of_not_lineBreak (h c List.mem_cons_self)]
    exact List.mem_cons_of_mem _ (ih fun d hd => h d (List.mem_cons_of_mem _ hd))

theorem exists_matchToLastQuote {quote : Char} {text : SqlText} (h : quote ∈ line text) :
    ∃ rest, matchToLastQuote quote text = some rest := by
  induction text with
  | nil => cases h
  | cons c text ih =>
    cases hc : lineBreak c with
    | true =>
      rw [line, List.takeWhile_cons, hc] at h
      cases h
    | false =>
      rw [line_cons_of_not_lineBreak hc] at h
      unfold matchToLastQuote
      cases hbehind : matchToLastQuote quote text with
      | some rest =>
        refine ⟨rest, if_neg ?_⟩
        simpa [lineBreak] using hc
      | none =>
        rcases List.mem_cons.mp h with rfl | h
        · exact ⟨text, if_pos rfl⟩
        · obtain ⟨rest, hrest⟩ := ih h
          rw [hbehind] at hrest
          cases hrest

theorem mem_line_of_matchToLastQuote {quote : Char} (hquote : lineBreak quote = false)
    {text rest : SqlText} (h : matchToLastQuote quote text = some rest) : quote ∈ line text := by
  induction text with
  | nil => cases h
  | cons c text ih =>
    unfold matchToLastQuote at h
    cases hbehind : matchToLastQuote quote text with
    | some rest' =>
      rw [hbehind] at h
      dsimp only at h
      split at h
      · cases h
      · next hc =>
        rw [line_cons_of_not_lineBreak (by simpa [lineBreak] using hc)]
        exact List.mem_cons_of_mem _ (ih (hbehind.trans h))
    | none =>
      rw [hbehind] at h
      dsimp only at h
      split at h
      · next hc =>
        rw [hc, line_cons_of_not_lineBreak hquote]
        exact List.mem_cons_self
      · cases h

/-- **The greedy match** ends with the last quote of the line. -/
theorem matchToLastQuote_eq_some_iff {quote : Char} (hquote : lineBreak quote = false)
    {text rest : SqlText} :
    matchToLastQuote quote text = some rest ↔
      ∃ body, text = body ++ quote :: rest ∧ (∀ c ∈ body, lineBreak c = false) ∧
        quote ∉ line rest := by
  constructor
  · intro h
    induction text generalizing rest with
    | nil => cases h
    | cons c text ih =>
      unfold matchToLastQuote at h
      cases hbehind : matchToLastQuote quote text with
      | some rest' =>
        rw [hbehind] at h
        dsimp only at h
        split at h
        · cases h
        · next hc =>
          obtain rfl := Option.some.inj h
          obtain ⟨body, rfl, hbody, hlast⟩ := ih hbehind
          refine ⟨c :: body, rfl, fun d hd => ?_, hlast⟩
          rcases List.mem_cons.mp hd with rfl | hd
          · simpa [lineBreak] using hc
          · exact hbody d hd
      | none =>
        rw [hbehind] at h
        dsimp only at h
        split at h
        · next hc =>
          obtain rfl := Option.some.inj h
          refine ⟨[], by rw [hc]; rfl, ?_, fun hmem => ?_⟩
          · intro d hd
            cases hd
          · obtain ⟨rest, hrest⟩ := exists_matchToLastQuote hmem
            rw [hbehind] at hrest
            cases hrest
        · cases h
  · rintro ⟨body, rfl, hbody, hlast⟩
    induction body with
    | nil =>
      rw [List.nil_append]
      unfold matchToLastQuote
      cases hbehind : matchToLastQuote quote rest with
      | some rest' => exact absurd (mem_line_of_matchToLastQuote hquote hbehind) hlast
      | none => exact if_pos rfl
    | cons c body ih =>
      have hc := hbody c List.mem_cons_self
      rw [List.cons_append]
      unfold matchToLastQuote
      rw [ih fun d hd => hbody d (List.mem_cons_of_mem _ hd)]
      dsimp only
      rw [if_neg (by simpa [lineBreak] using hc)]

/-- A clause: the keyword in any case, white space, and a literal whose body may be anything. -/
structure ReplaceClause where
  keyword : SqlText
  gap : SqlText
  quote : Char
  body : SqlText
  keyword_eq : keyword.map Char.toLower = "replace".toList
  gap_blank : Blank gap
  quote_eq : quote = doubleQuote ∨ quote = singleQuote

namespace ReplaceClause

variable (clause : ReplaceClause)

/-- The literal. -/
def literal : SqlText := clause.quote :: (clause.body ++ [clause.quote])

/-- The text of a clause. -/
def text : SqlText := clause.keyword ++ (clause.gap ++ clause.literal)

variable {clause}

theorem lineBreak_quote : lineBreak clause.quote = false := by
  rcases clause.quote_eq with h | h
  · rw [h]
    rfl
  · rw [h]
    rfl

theorem isSpace_quote : isSpace clause.quote = false := by
  rcases clause.quote_eq with h | h
  · rw [h]
    rfl
  · rw [h]
    rfl

/-- The keyword begins with a letter. -/
theorem exists_keyword : ∃ c rest, clause.keyword = c :: rest ∧ isSpace c = false := by
  have hkeyword := clause.keyword_eq
  cases hc : clause.keyword with
  | nil =>
    rw [hc] at hkeyword
    cases hkeyword
  | cons c rest =>
    rw [hc] at hkeyword
    have hlower : c.toLower = 'r' := (List.cons.inj hkeyword).1
    refine ⟨c, rest, rfl, ?_⟩
    cases hspace : isSpace c with
    | false => rfl
    | true =>
      rw [toLower_of_isSpace hspace] at hlower
      rw [hlower] at hspace
      cases hspace

end ReplaceClause

/-- The pattern matches at the start of a text, up to `rest`: a blank, white space, and a clause
with a blank behind the keyword, on one line from its quote on, and with no such quote behind it on
that line. -/
def ClauseAt (text rest : SqlText) : Prop :=
  ∃ (gap : SqlText) (clause : ReplaceClause), text = ' ' :: (gap ++ (clause.text ++ rest)) ∧
    Blank gap ∧ clause.gap.head? = some ' ' ∧ (∀ c ∈ clause.body, lineBreak c = false) ∧
    clause.quote ∉ line rest

theorem skipSpaces_append {gap : SqlText} (hgap : Blank gap) {c : Char} (hc : isSpace c = false)
    (text : SqlText) : skipSpaces (gap ++ c :: text) = c :: text :=
  Replacement.dropWhile_append_cons hgap hc text

/-- What white space is followed by. -/
theorem exists_skipSpaces (text : SqlText) : ∃ gap, Blank gap ∧ text = gap ++ skipSpaces text := by
  refine ⟨text.takeWhile isSpace, fun c hc => ?_, List.takeWhile_append_dropWhile.symm⟩
  exact List.mem_takeWhile_imp hc

theorem matchWord_blank_iff {text rest : SqlText} :
    matchWord " ".toList text = some rest ↔ text = ' ' :: rest := by
  rw [matchWord_eq_some_iff]
  constructor
  · rintro ⟨matched, rfl, hmap⟩
    have hlength : matched.length = 1 := by simpa using congrArg List.length hmap
    obtain ⟨c, rfl⟩ := List.length_eq_one_iff.mp hlength
    have hc : c.toLower = ' ' := (List.cons.inj hmap).1
    rw [toLower_eq_space_iff.mp hc]
    rfl
  · rintro rfl
    exact ⟨[' '], rfl, rfl⟩

theorem matchWord_replace_iff {text rest : SqlText} :
    matchWord "replace ".toList text = some rest ↔
      ∃ keyword, keyword.map Char.toLower = "replace".toList ∧ text = keyword ++ ' ' :: rest := by
  have hword : "replace ".toList.map Char.toLower = "replace".toList ++ [' '] := rfl
  rw [matchWord_eq_some_iff, hword]
  constructor
  · rintro ⟨matched, rfl, hmap⟩
    obtain ⟨keyword, blank, rfl, hkeyword, hblank⟩ := List.map_eq_append_iff.mp hmap
    have hlength : blank.length = 1 := by simpa using congrArg List.length hblank
    obtain ⟨c, rfl⟩ := List.length_eq_one_iff.mp hlength
    have hc : c.toLower = ' ' := (List.cons.inj hblank).1
    rw [toLower_eq_space_iff.mp hc]
    exact ⟨keyword, hkeyword, by simp⟩
  · rintro ⟨keyword, hkeyword, rfl⟩
    exact ⟨keyword ++ [' '], by simp, by rw [List.map_append, hkeyword]; rfl⟩

theorem replacePattern_of_clauseAt {text rest : SqlText} (h : ClauseAt text rest) :
    ∃ found, replacePattern text = some found ∧ found.rest = rest := by
  obtain ⟨gap, clause, rfl, hgap, hhead, hbody, hlast⟩ := h
  obtain ⟨c, keyword, hkeyword, hc⟩ := clause.exists_keyword
  obtain ⟨gap', hgap'⟩ : ∃ gap', clause.gap = ' ' :: gap' := by
    cases hcase : clause.gap with
    | nil =>
      rw [hcase] at hhead
      cases hhead
    | cons d gap' =>
      rw [hcase] at hhead
      obtain rfl := Option.some.inj hhead
      exact ⟨gap', rfl⟩
  have hblank' : Blank gap' := fun d hd =>
    clause.gap_blank d (by rw [hgap']; exact List.mem_cons_of_mem _ hd)
  have hskip : skipSpaces (gap ++ (clause.text ++ rest)) =
      clause.keyword ++ ' ' :: (gap' ++ clause.quote :: (clause.body ++ clause.quote :: rest)) := by
    have htext : clause.text ++ rest = c :: (keyword ++ ' ' ::
        (gap' ++ clause.quote :: (clause.body ++ clause.quote :: rest))) := by
      simp [ReplaceClause.text, ReplaceClause.literal, hkeyword, hgap']
    rw [htext, skipSpaces_append hgap hc, hkeyword]
    rfl
  have hquoted : matchToLastQuote clause.quote (clause.body ++ clause.quote :: rest) = some rest :=
    (matchToLastQuote_eq_some_iff clause.lineBreak_quote).mpr ⟨clause.body, rfl, hbody, hlast⟩
  refine ⟨⟨rest, [before (clause.quote :: (clause.body ++ clause.quote :: rest)) rest]⟩, ?_, rfl⟩
  unfold replacePattern
  rw [matchWord_blank_iff.mpr rfl, Option.bind_eq_bind, Option.bind_some, hskip,
    matchWord_replace_iff.mpr ⟨clause.keyword, clause.keyword_eq, rfl⟩, Option.bind_some,
    skipSpaces_append hblank' clause.isSpace_quote]
  dsimp only
  rw [if_pos clause.quote_eq, hquoted]
  rfl

theorem clauseAt_of_replacePattern {text : SqlText} {found : Match}
    (h : replacePattern text = some found) : ClauseAt text found.rest := by
  unfold replacePattern at h
  obtain ⟨behind, hblank, hfound⟩ := Option.bind_eq_some_iff.mp h
  obtain ⟨behind', hword, hfound'⟩ := Option.bind_eq_some_iff.mp hfound
  rw [matchWord_blank_iff.mp hblank]
  obtain ⟨keyword, hkeyword, htext⟩ := matchWord_replace_iff.mp hword
  obtain ⟨gap, hgap, hsplit⟩ := exists_skipSpaces behind
  obtain ⟨gap', hgap', hsplit'⟩ := exists_skipSpaces behind'
  cases hskip : skipSpaces behind' with
  | nil =>
    rw [hskip] at hfound'
    cases hfound'
  | cons quote quoted =>
    rw [hskip] at hfound' hsplit'
    dsimp only at hfound'
    split at hfound'
    · next hquote =>
      obtain ⟨rest, hmatch, hrest⟩ := Option.bind_eq_some_iff.mp hfound'
      obtain rfl := Option.some.inj hrest
      let clause : ReplaceClause :=
        ⟨keyword, ' ' :: gap', quote, [], hkeyword, blank_cons_iff.mpr ⟨rfl, hgap'⟩, hquote⟩
      have hbreak : lineBreak quote = false := clause.lineBreak_quote
      obtain ⟨body, hbody, hline, hlast⟩ := (matchToLastQuote_eq_some_iff hbreak).mp hmatch
      refine ⟨gap, { clause with body }, ?_, hgap, rfl, hline, hlast⟩
      rw [hsplit, htext, hsplit', hbody]
      simp [clause, ReplaceClause.text, ReplaceClause.literal]
    · cases hfound'

/-- What the pattern leaves behind a match. -/
def replaceRest (text : SqlText) : Option SqlText := (replacePattern text).map Match.rest

theorem replaceRest_eq_some_iff (text rest : SqlText) :
    replaceRest text = some rest ↔ ClauseAt text rest := by
  unfold replaceRest
  rw [Option.map_eq_some_iff]
  constructor
  · rintro ⟨found, hfound, rfl⟩
    exact clauseAt_of_replacePattern hfound
  · exact replacePattern_of_clauseAt

/-! ## Facts about a match -/

theorem ReplaceClause.text_eq (clause : ReplaceClause) (rest : SqlText) : ∃ c more,
    clause.text ++ rest = c :: (more ++ rest) ∧ isSpace c = false := by
  obtain ⟨c, keyword, hkeyword, hc⟩ := clause.exists_keyword
  refine ⟨c, keyword ++ (clause.gap ++ clause.literal), ?_, hc⟩
  simp [ReplaceClause.text, hkeyword]

theorem ReplaceClause.length_keyword (clause : ReplaceClause) : clause.keyword.length = 7 := by
  have hlength := congrArg List.length clause.keyword_eq
  rwa [List.length_map] at hlength

/-- Two clauses at one place begin with the same keyword, white space and quote. -/
theorem ReplaceClause.text_append_inj {clause clause' : ReplaceClause} {rest rest' : SqlText}
    (h : clause.text ++ rest = clause'.text ++ rest') :
    clause.gap = clause'.gap ∧ clause.quote = clause'.quote ∧
      clause.body ++ clause.quote :: rest = clause'.body ++ clause'.quote :: rest' := by
  have hlength : clause.keyword.length = clause'.keyword.length := by
    rw [clause.length_keyword, clause'.length_keyword]
  have hsplit : clause.keyword ++
        (clause.gap ++ clause.quote :: (clause.body ++ clause.quote :: rest)) =
      clause'.keyword ++
        (clause'.gap ++ clause'.quote :: (clause'.body ++ clause'.quote :: rest')) := by
    simpa [ReplaceClause.text, ReplaceClause.literal] using h
  have htail := (List.append_inj hsplit hlength).2
  exact Replacement.blanks_append_inj clause.gap_blank clause'.gap_blank clause.isSpace_quote
    clause'.isSpace_quote htail

namespace ClauseAt

variable {text rest : SqlText}

/-- A match ends where the pattern says. -/
theorem unique {rest' : SqlText} (h : ClauseAt text rest) (h' : ClauseAt text rest') :
    rest = rest' := by
  rw [← replaceRest_eq_some_iff] at h h'
  rw [h] at h'
  exact Option.some.inj h'

/-- A match takes the first character that is no white space. -/
theorem exists_first (h : ClauseAt text rest) :
    ∃ gap c more, text = ' ' :: (gap ++ c :: (more ++ rest)) ∧ Blank gap ∧ isSpace c = false := by
  obtain ⟨gap, clause, rfl, hgap, -, -, -⟩ := h
  obtain ⟨c, more, hclause, hc⟩ := clause.text_eq rest
  exact ⟨gap, c, more, by rw [hclause], hgap, hc⟩

/-- A match ends with a quote. -/
theorem exists_last (h : ClauseAt text rest) :
    ∃ front quote, text = front ++ quote :: rest ∧ isSpace quote = false := by
  obtain ⟨gap, clause, rfl, -, -, -, -⟩ := h
  refine ⟨' ' :: (gap ++ (clause.keyword ++ (clause.gap ++ clause.quote :: clause.body))),
    clause.quote, ?_, clause.isSpace_quote⟩
  simp [ReplaceClause.text, ReplaceClause.literal]

/-- A match has more than one character. -/
theorem length_lt (h : ClauseAt text rest) : rest.length + 1 < text.length := by
  obtain ⟨gap, clause, rfl, -, -, -, -⟩ := h
  simp only [ReplaceClause.text, ReplaceClause.literal, List.length_cons, List.length_append]
  omega

end ClauseAt

/-- White space behind the blank of a match plays no part. -/
theorem clauseAt_blank_iff {gap : SqlText} (hgap : Blank gap) {c : Char} (hc : isSpace c = false)
    {text rest : SqlText} : ClauseAt (' ' :: (gap ++ c :: text)) rest ↔
      ClauseAt (' ' :: c :: text) rest := by
  constructor
  · rintro ⟨gap', clause, htext, hgap', hrest⟩
    obtain ⟨d, more, hclause, hd⟩ := clause.text_eq rest
    have htail := (List.cons.inj htext).2
    rw [hclause] at htail
    obtain ⟨rfl, rfl, rfl⟩ := Replacement.blanks_append_inj hgap hgap' hc hd htail
    exact ⟨[], clause, by rw [List.nil_append, hclause], blank_nil, hrest⟩
  · rintro ⟨gap', clause, htext, hgap', hrest⟩
    obtain ⟨d, more, hclause, hd⟩ := clause.text_eq rest
    have htail := (List.cons.inj htext).2
    rw [hclause] at htail
    obtain ⟨rfl, rfl, rfl⟩ := Replacement.blanks_append_inj blank_nil hgap' hc hd htail
    exact ⟨gap, clause, by rw [hclause], hgap, hrest⟩

theorem clauseAt_lawful : Replacement.Lawful ClauseAt isSpace where
  unique := by
    intro gap text rest rest' hgap h h'
    cases gap with
    | nil => exact h.unique h'
    | cons d gap =>
      obtain ⟨gap', c, more, rfl, hgap', hc⟩ := h.exists_first
      obtain ⟨_, _, _, hd, -, -⟩ := h'.exists_first
      obtain rfl := (List.cons.inj hd).1
      have hwide : Blank (gap ++ ' ' :: gap') := by
        intro b hb
        rcases List.mem_append.mp hb with hb | hb
        · exact hgap b (List.mem_cons_of_mem _ hb)
        · exact blank_cons_iff.mpr ⟨rfl, hgap'⟩ b hb
      have hsplit : ' ' :: gap ++ ' ' :: (gap' ++ c :: (more ++ rest)) =
          ' ' :: ((gap ++ ' ' :: gap') ++ c :: (more ++ rest)) := by simp
      rw [hsplit, clauseAt_blank_iff hwide hc] at h'
      rw [clauseAt_blank_iff hgap' hc] at h
      exact h.unique h'
  first := by
    intro text rest h
    obtain ⟨gap, c, more, rfl, hgap, hc⟩ := h.exists_first
    exact ⟨' ' :: gap, c, more, rfl, blank_cons_iff.mpr ⟨rfl, hgap⟩, hc⟩
  last := ClauseAt.exists_last

end CantianConnector.Ddl
