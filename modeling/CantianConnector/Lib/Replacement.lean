import Mathlib.Data.List.Basic
import Mathlib.Data.List.TakeWhile

/-!
# Search and replace

A text is searched from left to right, and each match is replaced by one fixed text. `M text rest`
says that a match at the start of `text` leaves `rest`. The pieces of a text tell of each element
whether it stays or belongs to a match. Some elements are blanks, and of a match we ask that it
takes the first element that is not and ends with such an element (`Lawful`). Then the pieces tell where
matches are: from what stays and what goes we get back to the matches that were found.
-/

namespace Replacement

variable {α : Type}

/-- A piece of a text: an element that stays, or a match. -/
inductive Piece (α : Type) where
  | kept (a : α)
  | removed (matched : List α)

/-- What stands for a piece in the result. -/
def Piece.output (fill : List α) : Piece α → List α
  | .kept a => [a]
  | .removed _ => fill

/-- The elements of a piece, and whether they are taken out. -/
def Piece.marks : Piece α → List (α × Bool)
  | .kept a => [(a, false)]
  | .removed matched => matched.map fun a => (a, true)

/-- The result of pieces. -/
def outputs (fill : List α) (ps : List (Piece α)) : List α := ps.flatMap (Piece.output fill)

/-- The elements of pieces, each with its mark. -/
def marks (ps : List (Piece α)) : List (α × Bool) := ps.flatMap Piece.marks

/-- What stays as it is. -/
def keptPieces (text : List α) : List (Piece α) := text.map .kept

/-- The loop, up to `n` rounds. `find` gives what is left behind a match. -/
def piecesLoop (find : List α → Option (List α)) : Nat → List α → List (Piece α)
  | 0, text => keptPieces text
  | _ + 1, [] => []
  | n + 1, a :: text =>
    match find (a :: text) with
    | some rest =>
      .removed ((a :: text).take ((a :: text).length - rest.length)) :: piecesLoop find n rest
    | none => .kept a :: piecesLoop find n text

/-- The pieces of a text. -/
def pieces (find : List α → Option (List α)) (text : List α) : List (Piece α) :=
  piecesLoop find text.length text

section Pieces

variable (fill : List α)

theorem marks_keptPieces (text : List α) :
    marks (keptPieces text) = text.map fun a => (a, false) := by
  induction text with
  | nil => rfl
  | cons a text ih =>
    show (a, false) :: marks (keptPieces text) = _
    rw [ih]
    rfl

theorem outputs_keptPieces (text : List α) : outputs fill (keptPieces text) = text := by
  simp [outputs, keptPieces, Piece.output, List.flatMap_map]

theorem marks_append (ps ps' : List (Piece α)) : marks (ps ++ ps') = marks ps ++ marks ps' :=
  List.flatMap_append

theorem outputs_append (ps ps' : List (Piece α)) :
    outputs fill (ps ++ ps') = outputs fill ps ++ outputs fill ps' :=
  List.flatMap_append

theorem marks_removed (matched : List α) (ps : List (Piece α)) :
    marks (.removed matched :: ps) = matched.map (fun a => (a, true)) ++ marks ps := rfl

theorem marks_kept (a : α) (ps : List (Piece α)) :
    marks (.kept a :: ps) = (a, false) :: marks ps := rfl

theorem outputs_removed (matched : List α) (ps : List (Piece α)) :
    outputs fill (.removed matched :: ps) = fill ++ outputs fill ps := rfl

theorem outputs_kept (a : α) (ps : List (Piece α)) :
    outputs fill (.kept a :: ps) = a :: outputs fill ps := rfl

theorem map_fst_kept (text : List α) : (text.map fun a => (a, false)).map Prod.fst = text := by
  rw [List.map_map]
  simp [Function.comp_def]

end Pieces

/-! ## Scans -/

/-- **The scan of a text** from left to right: a match is taken out and the scan goes on behind it,
another element stays. -/
inductive Scan (M : List α → List α → Prop) : List α → List (Piece α) → Prop
  | nil : Scan M [] []
  | hit {matched rest : List α} {ps : List (Piece α)} :
      M (matched ++ rest) rest → Scan M rest ps → Scan M (matched ++ rest) (.removed matched :: ps)
  | skip {a : α} {text : List α} {ps : List (Piece α)} :
      (∀ rest, ¬M (a :: text) rest) → Scan M text ps → Scan M (a :: text) (.kept a :: ps)

/-- Nothing matches anywhere in a text. -/
def Quiet (M : List α → List α → Prop) (text : List α) : Prop :=
  ∀ front behind rest, text = front ++ behind → ¬M behind rest

/-- Nothing is taken out but blanks. -/
def Stays (blank : α → Bool) (ms : List (α × Bool)) : Prop :=
  ∀ x ∈ ms, blank x.1 = false → x.2 = false

/-- Everything is taken out but blanks. -/
def Goes (blank : α → Bool) (ms : List (α × Bool)) : Prop :=
  ∀ x ∈ ms, blank x.1 = false → x.2 = true

/-- What a match leaves does not depend on blanks in front. A match takes the first element that is
no blank, and its last element is none. -/
structure Lawful (M : List α → List α → Prop) (blank : α → Bool) : Prop where
  unique : ∀ {gap text rest rest'}, (∀ b ∈ gap, blank b = true) → M text rest →
    M (gap ++ text) rest' → rest = rest'
  first : ∀ {text rest}, M text rest → ∃ gap a more, text = gap ++ a :: (more ++ rest) ∧
    (∀ b ∈ gap, blank b = true) ∧ blank a = false
  last : ∀ {text rest}, M text rest → ∃ front a, text = front ++ a :: rest ∧ blank a = false

theorem stays_of_kept (blank : α → Bool) (text : List α) :
    Stays blank (text.map fun a => (a, false)) := by
  intro x hx _
  obtain ⟨a, -, rfl⟩ := List.mem_map.mp hx
  rfl

section Blanks

variable {blank : α → Bool}

theorem dropWhile_append_cons {gap : List α} (hgap : ∀ b ∈ gap, blank b = true) {a : α}
    (ha : blank a = false) (text : List α) :
    (gap ++ a :: text).dropWhile blank = a :: text := by
  rw [List.dropWhile_append_of_pos hgap, List.dropWhile_cons_of_neg]
  rw [ha]
  exact Bool.false_ne_true

/-- The blanks in front of another element are determined by the text. -/
theorem blanks_append_inj {gap gap' : List α} (hgap : ∀ b ∈ gap, blank b = true)
    (hgap' : ∀ b ∈ gap', blank b = true) {a a' : α} (ha : blank a = false) (ha' : blank a' = false)
    {text text' : List α} (h : gap ++ a :: text = gap' ++ a' :: text') :
    gap = gap' ∧ a = a' ∧ text = text' := by
  have hdrop := congrArg (List.dropWhile blank) h
  rw [dropWhile_append_cons hgap ha, dropWhile_append_cons hgap' ha'] at hdrop
  obtain ⟨rfl, rfl⟩ := List.cons.inj hdrop
  exact ⟨List.append_cancel_right h, rfl, rfl⟩

/-- The first element that is no blank. -/
theorem exists_first {text : List α} {a : α} (hmem : a ∈ text) (ha : blank a = false) :
    ∃ gap d rest, text = gap ++ d :: rest ∧ (∀ b ∈ gap, blank b = true) ∧ blank d = false := by
  induction text with
  | nil => cases hmem
  | cons d text ih =>
    cases hd : blank d with
    | false => exact ⟨[], d, text, rfl, List.forall_mem_nil _, hd⟩
    | true =>
      rcases List.mem_cons.mp hmem with rfl | hmem
      · rw [ha] at hd
        cases hd
      · obtain ⟨gap, e, rest, rfl, hgap, he⟩ := ih hmem
        exact ⟨d :: gap, e, rest, rfl, List.forall_mem_cons.mpr ⟨hd, hgap⟩, he⟩

/-- The last element is one that is no blank. -/
theorem exists_mem_of_getLast {text : List α} (hne : text ≠ [])
    (hend : ∀ a, text.getLast? = some a → blank a = false) : ∃ a ∈ text, blank a = false :=
  ⟨text.getLast hne, List.getLast_mem hne, hend _ (List.getLast?_eq_getLast_of_ne_nil hne)⟩

theorem mem_take_append {n : Nat} {front : List α} (h : front.length < n) (a : α)
    (behind : List α) : a ∈ (front ++ a :: behind).take n := by
  rw [List.mem_iff_getElem?]
  exact ⟨front.length, by rw [List.getElem?_take_of_lt h]; simp⟩

theorem getLast_append_eq (front : List α) {text : List α} (hne : text ≠ []) :
    (front ++ text).getLast? = text.getLast? := by
  rw [List.getLast?_append, List.getLast?_eq_getLast_of_ne_nil hne]
  rfl

end Blanks

variable {M : List α → List α → Prop} {blank : α → Bool}

namespace Lawful

variable (hM : Lawful M blank)

include hM

/-- A match takes something out. -/
theorem exists_matched {text rest : List α} (h : M text rest) :
    ∃ matched, text = matched ++ rest ∧ matched ≠ [] := by
  obtain ⟨front, a, rfl, -⟩ := hM.last h
  exact ⟨front ++ [a], by simp, List.concat_ne_nil _ _⟩

theorem length_lt {text rest : List α} (h : M text rest) : rest.length < text.length := by
  obtain ⟨front, a, rfl, -⟩ := hM.last h
  rw [List.length_append, List.length_cons]
  omega

theorem not_nil {rest : List α} : ¬M [] rest := fun h =>
  absurd (hM.length_lt h) (Nat.not_lt_zero _)

/-- A match takes the first element that is no blank. -/
theorem exists_matched_first {text matched rest gap more : List α} {a : α} (h : M text rest)
    (hmatched : text = matched ++ rest) (htext : text = gap ++ a :: more)
    (hgap : ∀ b ∈ gap, blank b = true) (ha : blank a = false) :
    ∃ more', matched = gap ++ a :: more' := by
  obtain ⟨gap', a', more', hfirst, hgap', ha'⟩ := hM.first h
  obtain ⟨rfl, rfl, rfl⟩ := blanks_append_inj hgap hgap' ha ha' (htext.symm.trans hfirst)
  have happend : gap ++ a :: more' ++ rest = matched ++ rest := by
    rw [← hmatched, htext, List.append_assoc]
    rfl
  exact ⟨more', (List.append_cancel_right happend).symm⟩

/-- The last element of a match is no blank. -/
theorem exists_matched_last {matched rest : List α} (h : M (matched ++ rest) rest) :
    ∃ front a, matched = front ++ [a] ∧ blank a = false := by
  obtain ⟨front, a, hlast, ha⟩ := hM.last h
  rw [List.append_cons] at hlast
  exact ⟨front, a, List.append_cancel_right hlast, ha⟩

/-- The pieces are those of a scan. -/
theorem scan_pieces {find : List α → Option (List α)}
    (hfind : ∀ text rest, find text = some rest ↔ M text rest) (text : List α) :
    Scan M text (pieces find text) := by
  have hloop : ∀ n text, text.length ≤ n → Scan M text (piecesLoop find n text) := by
    intro n
    induction n with
    | zero =>
      intro text hn
      rw [List.length_eq_zero_iff.mp (Nat.le_zero.mp hn)]
      exact Scan.nil
    | succ n ih =>
      intro text hn
      cases text with
      | nil => exact Scan.nil
      | cons a text =>
        unfold piecesLoop
        cases hfound : find (a :: text) with
        | some rest =>
          have hmatch := (hfind _ _).mp hfound
          have hlt := hM.length_lt hmatch
          obtain ⟨matched, hsplit, -⟩ := hM.exists_matched hmatch
          dsimp only
          rw [hsplit, List.length_append, Nat.add_sub_cancel, List.take_left]
          rw [hsplit] at hmatch
          rw [List.length_cons] at hn hlt
          exact Scan.hit hmatch (ih rest (by omega))
        | none =>
          rw [List.length_cons] at hn
          refine Scan.skip (fun rest hmatch => ?_) (ih text (by omega))
          rw [(hfind _ _).mpr hmatch] at hfound
          cases hfound
  exact hloop _ _ (Nat.le_refl _)

theorem quiet_nil : Quiet M [] := by
  intro front behind rest hsplit hmatch
  rw [(List.append_eq_nil_iff.mp hsplit.symm).2] at hmatch
  exact hM.not_nil hmatch

end Lawful

theorem Quiet.cons {a : α} {text : List α} (h : Quiet M text)
    (hnone : ∀ rest, ¬M (a :: text) rest) : Quiet M (a :: text) := by
  intro front behind rest hsplit
  cases front with
  | nil =>
    obtain rfl := hsplit
    exact hnone rest
  | cons b front => exact h front behind rest (List.cons.inj hsplit).2

namespace Scan

/-- What the scan does at an element. -/
theorem cons_cases {a : α} {text : List α} {ps : List (Piece α)} (h : Scan M (a :: text) ps) :
    (∃ matched rest ps', a :: text = matched ++ rest ∧ M (a :: text) rest ∧ Scan M rest ps' ∧
      ps = .removed matched :: ps') ∨
    ((∀ rest, ¬M (a :: text) rest) ∧ ∃ ps', Scan M text ps' ∧ ps = .kept a :: ps') := by
  generalize htext : a :: text = whole at h
  cases h with
  | nil => cases htext
  | @hit matched rest ps' hmatch hrest => exact Or.inl ⟨matched, rest, ps', rfl, hmatch, hrest, rfl⟩
  | @skip d text' ps' hnone hrest =>
    obtain ⟨rfl, rfl⟩ := List.cons.inj htext
    exact Or.inr ⟨hnone, ps', hrest, rfl⟩

theorem marks_fst {text : List α} {ps : List (Piece α)} (h : Scan M text ps) :
    (marks ps).map Prod.fst = text := by
  induction h with
  | nil => rfl
  | @hit matched rest ps _ _ ih =>
    rw [marks_removed, List.map_append, ih, List.map_map]
    simp [Function.comp_def]
  | @skip a text ps _ _ ih =>
    rw [marks_kept, List.map_cons, ih]

/-- A text in which nothing matches stays. -/
theorem of_none {behind : List α} {ps : List (Piece α)} (h : Scan M behind ps) (text : List α)
    (hnone : ∀ x y, text = x ++ y → y ≠ [] → ∀ rest, ¬M (y ++ behind) rest) :
    Scan M (text ++ behind) (keptPieces text ++ ps) := by
  induction text with
  | nil => exact h
  | cons a text ih =>
    have hhere := hnone [] (a :: text) rfl (List.cons_ne_nil a text)
    refine Scan.skip hhere (ih fun x y hsplit hy => ?_)
    exact hnone (a :: x) y (by rw [hsplit]; rfl) hy

end Scan

theorem Quiet.scan {text : List α} (h : Quiet M text) : Scan M text (keptPieces text) := by
  have hscan := Scan.of_none Scan.nil text fun x y hsplit _ rest => by
    rw [List.append_nil]
    exact h x y rest hsplit
  rwa [List.append_nil, List.append_nil] at hscan

section Lawful

variable (hM : Lawful M blank) {fill : List α}

include hM

/-- A text has one scan. -/
theorem Scan.unique {text : List α} {ps ps' : List (Piece α)} (h : Scan M text ps)
    (h' : Scan M text ps') : ps = ps' := by
  induction h generalizing ps' with
  | nil =>
    generalize htext : ([] : List α) = whole at h'
    cases h' with
    | nil => rfl
    | hit hmatch _ =>
      rw [← htext] at hmatch
      exact absurd hmatch hM.not_nil
    | skip _ _ => cases htext
  | @hit matched rest ps hmatch hrest ih =>
    cases hwhole : matched ++ rest with
    | nil =>
      rw [hwhole] at hmatch
      exact absurd hmatch hM.not_nil
    | cons a text =>
      rw [hwhole] at h' hmatch
      rcases h'.cons_cases with ⟨matched', rest', ps'', hsplit, hmatch', hrest', rfl⟩ | ⟨hnone, -⟩
      · obtain rfl := hM.unique (List.forall_mem_nil _) hmatch hmatch'
        rw [← hwhole] at hsplit
        rw [List.append_cancel_right hsplit, ih hrest']
      · exact absurd hmatch (hnone rest)
  | @skip a text ps hnone hrest ih =>
    rcases h'.cons_cases with ⟨_, rest', _, _, hmatch', _, _⟩ | ⟨_, ps'', hrest', rfl⟩
    · exact absurd hmatch' (hnone rest')
    · rw [ih hrest']

/-- A front that ends with an element that is no blank, all of which stays, holds no match. -/
theorem Scan.front_none {front behind : List α} {ps : List (Piece α)}
    (h : Scan M (front ++ behind) ps) (hend : ∀ a, front.getLast? = some a → blank a = false)
    (hstays : Stays blank ((marks ps).take front.length)) :
    (∀ x y, front = x ++ y → y ≠ [] → ∀ rest, ¬M (y ++ behind) rest) ∧
      ∃ ps', Scan M behind ps' ∧ marks ps = front.map (fun a => (a, false)) ++ marks ps' := by
  induction front generalizing ps with
  | nil =>
    refine ⟨fun x y hsplit hy => ?_, ps, h, rfl⟩
    exact absurd (List.append_eq_nil_iff.mp hsplit.symm).2 hy
  | cons c front ih =>
    rcases h.cons_cases with ⟨matched, rest, ps', hsplit, hmatch, -, rfl⟩ | ⟨hnone, ps', hrest, rfl⟩
    · -- the match takes the first element of the front that is no blank
      exfalso
      obtain ⟨d, hd, hblank⟩ := exists_mem_of_getLast (List.cons_ne_nil c front) hend
      obtain ⟨gap, e, more, hfront, hgap, he⟩ := exists_first hd hblank
      have htext : c :: front.append behind = gap ++ e :: (more ++ behind) := by
        show (c :: front) ++ behind = _
        rw [hfront, List.append_assoc]
        rfl
      obtain ⟨more', hmatched⟩ := hM.exists_matched_first hmatch hsplit htext hgap he
      have hlength : gap.length < (c :: front).length := by
        rw [hfront]
        simp
      have htaken : (e, true) ∈ (marks (.removed matched :: ps')).take (c :: front).length := by
        rw [marks_removed, hmatched, List.map_append, List.map_cons, List.append_assoc,
          List.cons_append]
        exact mem_take_append (by rwa [List.length_map]) _ _
      exact Bool.noConfusion (hstays _ htaken he)
    · have hend' : ∀ d, front.getLast? = some d → blank d = false := by
        intro d hd
        cases front with
        | nil => cases hd
        | cons e front => exact hend d (by rw [List.getLast?_cons_cons]; exact hd)
      have hstays' : Stays blank ((marks ps').take front.length) := fun x hx =>
        hstays x (List.mem_cons_of_mem _ hx)
      obtain ⟨hbehind, ps'', hscan, hmarks⟩ := ih hrest hend' hstays'
      refine ⟨fun x y hsplit hy => ?_, ps'', hscan, ?_⟩
      · cases x with
        | nil =>
          obtain rfl := hsplit
          exact hnone
        | cons d x =>
          obtain ⟨rfl, rfl⟩ := List.cons.inj hsplit
          exact hbehind x y rfl hy
      · rw [marks_kept, hmarks]
        rfl

/-- A text all of which stays holds no match. -/
theorem Scan.quiet_of_stays {text : List α} {ps : List (Piece α)} (h : Scan M text ps)
    (hstays : Stays blank (marks ps)) : Quiet M text := by
  induction h with
  | nil => exact hM.quiet_nil
  | @hit matched rest ps hmatch _ _ =>
    exfalso
    obtain ⟨front, a, hlast, ha⟩ := hM.exists_matched_last hmatch
    have hmem : (a, true) ∈ marks (.removed matched :: ps) := by
      rw [marks_removed, hlast, List.map_append]
      exact List.mem_append_left _ (List.mem_append_right _ List.mem_cons_self)
    exact Bool.noConfusion (hstays _ hmem ha)
  | @skip a text ps hnone _ ih =>
    exact (ih fun x hx => hstays x (List.mem_cons_of_mem _ hx)).cons hnone

omit hM in
theorem Scan.length_outputs_le {text : List α} {ps : List (Piece α)} (h : Scan M text ps)
    (hfill : ∀ text rest, M text rest → rest.length + fill.length ≤ text.length) :
    (outputs fill ps).length ≤ text.length := by
  induction h with
  | nil => exact Nat.le_refl 0
  | @hit matched rest ps hmatch _ ih =>
    have hle := hfill _ _ hmatch
    rw [outputs_removed, List.length_append]
    omega
  | @skip a text ps _ _ ih =>
    rw [outputs_kept, List.length_cons, List.length_cons]
    omega

/-- **A text that is left as it is** holds no match, if matches are longer than what is put in their
place. -/
theorem Scan.quiet_of_outputs {text : List α} {ps : List (Piece α)} (h : Scan M text ps)
    (hfill : ∀ text rest, M text rest → rest.length + fill.length < text.length)
    (houtputs : outputs fill ps = text) : Quiet M text := by
  induction h with
  | nil => exact hM.quiet_nil
  | @hit matched rest ps hmatch hrest _ =>
    exfalso
    have hlt := hfill _ _ hmatch
    have hle := hrest.length_outputs_le fun text rest h => Nat.le_of_lt (hfill text rest h)
    have hlength := congrArg List.length houtputs
    rw [outputs_removed, List.length_append] at hlength
    omega
  | @skip a text ps hnone _ ih =>
    rw [outputs_kept] at houtputs
    exact (ih (List.cons.inj houtputs).2).cons hnone

end Lawful

/-! ## What goes exactly -/

/-- What the matches up to `behind` take out, with blanks only between them. -/
inductive Consumed (M : List α → List α → Prop) (blank : α → Bool) (behind : List α) :
    List α → Prop
  | last {text : List α} : M text behind → Consumed M blank behind text
  | next {text gap rest : List α} : M text (gap ++ rest) → (∀ b ∈ gap, blank b = true) →
      Consumed M blank behind rest → Consumed M blank behind text

/-- Of three parts of a text exactly the middle one goes, up to blanks. -/
def Exact (blank : α → Bool) (ps : List (Piece α)) (front text behind : List α) : Prop :=
  ∃ ms ms' ms'', marks ps = ms ++ (ms' ++ ms'') ∧ ms.map Prod.fst = front ∧
    ms'.map Prod.fst = text ∧ ms''.map Prod.fst = behind ∧
    Stays blank ms ∧ Goes blank ms' ∧ Stays blank ms''

/-- When exactly the middle part is consumed. -/
structure ConsumesExactly (M : List α → List α → Prop) (blank : α → Bool)
    (front text behind : List α) : Prop where
  front : ∀ x y, front = x ++ y → y ≠ [] → ∀ rest, ¬M (y ++ (text ++ behind)) rest
  text : ∃ gap rest, text ++ behind = gap ++ rest ∧ (∀ b ∈ gap, blank b = true) ∧
    Consumed M blank behind rest
  behind : Quiet M behind

section Exact

variable (hM : Lawful M blank) {fill : List α}

include hM

theorem Consumed.length_lt {text behind : List α} (h : Consumed M blank behind text) :
    behind.length < text.length := by
  induction h with
  | last hmatch => exact hM.length_lt hmatch
  | next hmatch _ _ ih =>
    have hlt := hM.length_lt hmatch
    rw [List.length_append] at hlt
    omega

/-- A text that ends with an element that is no blank and goes as a whole is consumed by matches. -/
theorem Scan.consumed {text behind : List α} {ps : List (Piece α)} (h : Scan M (text ++ behind) ps)
    (hne : text ≠ []) (hend : ∀ a, text.getLast? = some a → blank a = false)
    (hgoes : Goes blank ((marks ps).take text.length))
    (hstays : Stays blank ((marks ps).drop text.length)) :
    (∃ gap rest, text ++ behind = gap ++ rest ∧ (∀ b ∈ gap, blank b = true) ∧
      Consumed M blank behind rest) ∧ Quiet M behind := by
  generalize hwhole : text ++ behind = whole at h
  induction h generalizing text with
  | nil => exact absurd (List.append_eq_nil_iff.mp hwhole).1 hne
  | @skip a whole ps hnone hscan ih =>
    cases text with
    | nil => exact absurd rfl hne
    | cons d text =>
      obtain ⟨rfl, rfl⟩ := List.cons.inj hwhole
      rw [marks_kept, List.length_cons] at hgoes hstays
      -- what is skipped is a blank, as all other elements go
      have hblank : blank d = true := by
        cases hd : blank d with
        | true => rfl
        | false => exact Bool.noConfusion (hgoes (d, false) List.mem_cons_self hd)
      have hne' : text ≠ [] := by
        rintro rfl
        rw [hend d rfl] at hblank
        cases hblank
      have hlast : (d :: text).getLast? = text.getLast? := getLast_append_eq [d] hne'
      obtain ⟨⟨gap, rest, hsplit, hgap, hconsumed⟩, hquiet⟩ :=
        ih hne' (fun e he => hend e (hlast.trans he))
          (fun x hx => hgoes x (List.mem_cons_of_mem _ hx)) hstays rfl
      refine ⟨⟨d :: gap, rest, by rw [hsplit]; rfl, ?_, hconsumed⟩, hquiet⟩
      exact List.forall_mem_cons.mpr ⟨hblank, hgap⟩
  | @hit matched rest ps hmatch hscan ih =>
    rw [marks_removed] at hgoes hstays
    have hlength : text.length + behind.length = matched.length + rest.length := by
      rw [← List.length_append, hwhole, List.length_append]
    rcases Nat.lt_trichotomy rest.length behind.length with hlt | heq | hgt
    · -- the last element of the match would be in `behind`
      exfalso
      obtain ⟨front, a, hmatched, ha⟩ := hM.exists_matched_last hmatch
      have hmem : (a, true) ∈ (matched.map (fun a => (a, true)) ++ marks ps).drop text.length := by
        rw [hmatched, List.length_append, List.length_singleton] at hlength
        rw [hmatched, List.map_append, List.append_assoc,
          List.drop_append_of_le_length (by rw [List.length_map]; omega)]
        exact List.mem_append_right _ List.mem_cons_self
      exact Bool.noConfusion (hstays _ hmem ha)
    · obtain ⟨rfl, rfl⟩ := List.append_inj' hwhole heq.symm
      rw [List.drop_left' (List.length_map _)] at hstays
      exact ⟨⟨[], text ++ behind, rfl, List.forall_mem_nil _, Consumed.last hmatch⟩,
        hscan.quiet_of_stays hM hstays⟩
    · -- the next match begins behind blanks
      obtain ⟨text', rfl, rfl⟩ : ∃ text', text = matched ++ text' ∧ rest = text' ++ behind := by
        rcases List.append_eq_append_iff.mp hwhole with ⟨x, rfl, hx⟩ | ⟨x, rfl, hx⟩
        · have hle := congrArg List.length hx
          rw [List.length_append] at hle
          omega
        · exact ⟨x, rfl, hx⟩
      have hne' : text' ≠ [] := by
        rintro rfl
        exact absurd hgt (Nat.lt_irrefl _)
      have hlast := getLast_append_eq matched hne'
      rw [List.length_append] at hgoes hstays
      have hgoes' : Goes blank ((marks ps).take text'.length) := fun x hx => hgoes x (by
        rw [List.take_append, List.length_map, Nat.add_sub_cancel_left]
        exact List.mem_append_right _ hx)
      have hstays' : Stays blank ((marks ps).drop text'.length) := fun x hx => hstays x (by
        rw [List.drop_append, List.length_map, Nat.add_sub_cancel_left]
        exact List.mem_append_right _ hx)
      obtain ⟨⟨gap, rest, hsplit, hgap, hconsumed⟩, hquiet⟩ :=
        ih hne' (fun e he => hend e (hlast.trans he)) hgoes' hstays' rfl
      rw [hsplit] at hmatch
      refine ⟨⟨[], matched ++ (text' ++ behind), rfl, List.forall_mem_nil _, ?_⟩, hquiet⟩
      rw [hsplit]
      exact Consumed.next hmatch hgap hconsumed

/-- The scan of blanks and a match behind them. -/
theorem Lawful.scan_gap {gap text rest : List α} {ps : List (Piece α)} (h : M text rest)
    (hgap : ∀ b ∈ gap, blank b = true) (hrest : Scan M rest ps) : ∃ skipped matched,
      (∀ b ∈ skipped, blank b = true) ∧
        Scan M (gap ++ text) (keptPieces skipped ++ .removed matched :: ps) := by
  induction gap with
  | nil =>
    obtain ⟨matched, rfl, -⟩ := hM.exists_matched h
    exact ⟨[], matched, List.forall_mem_nil _, Scan.hit h hrest⟩
  | cons a gap ih =>
    by_cases hsome : ∃ rest', M (a :: gap ++ text) rest'
    · obtain ⟨rest', hmatch⟩ := hsome
      obtain rfl := hM.unique hgap h hmatch
      obtain ⟨matched, hsplit, -⟩ := hM.exists_matched hmatch
      refine ⟨[], matched, List.forall_mem_nil _, ?_⟩
      rw [hsplit] at hmatch ⊢
      exact Scan.hit hmatch hrest
    · obtain ⟨ha, hgap'⟩ := List.forall_mem_cons.mp hgap
      obtain ⟨skipped, matched, hskipped, hscan⟩ := ih hgap'
      refine ⟨a :: skipped, matched, List.forall_mem_cons.mpr ⟨ha, hskipped⟩, ?_⟩
      exact Scan.skip (fun rest' hmatch => hsome ⟨rest', hmatch⟩) hscan

omit hM in
theorem goes_of_removed {skipped : List α} (hskipped : ∀ b ∈ skipped, blank b = true)
    (matched : List α) :
    Goes blank (skipped.map (fun a => (a, false)) ++ matched.map fun a => (a, true)) := by
  intro x hx hblank
  rcases List.mem_append.mp hx with hx | hx
  · obtain ⟨a, ha, rfl⟩ := List.mem_map.mp hx
    rw [hskipped a ha] at hblank
    cases hblank
  · obtain ⟨a, -, rfl⟩ := List.mem_map.mp hx
    rfl

/-- What matches take out leaves blanks. -/
theorem Consumed.scan {text behind : List α} (h : Consumed M blank behind text)
    (hfill : ∀ b ∈ fill, blank b = true) (hne : fill ≠ []) {gap : List α}
    (hgap : ∀ b ∈ gap, blank b = true) {ps : List (Piece α)} (hbehind : Scan M behind ps) :
    ∃ ps' ms blanks, Scan M (gap ++ text) ps' ∧ marks ps' = ms ++ marks ps ∧ Goes blank ms ∧
      outputs fill ps' = blanks ++ outputs fill ps ∧ (∀ b ∈ blanks, blank b = true) ∧
        blanks ≠ [] := by
  have hblanks : ∀ {skipped : List α}, (∀ b ∈ skipped, blank b = true) →
      ∀ b ∈ skipped ++ fill, blank b = true := by
    intro skipped hskipped b hb
    rcases List.mem_append.mp hb with hb | hb
    · exact hskipped b hb
    · exact hfill b hb
  induction h generalizing gap with
  | last hmatch =>
    obtain ⟨skipped, matched, hskipped, hscan⟩ := hM.scan_gap hmatch hgap hbehind
    refine ⟨_, _, skipped ++ fill, hscan, ?_, goes_of_removed hskipped matched, ?_,
      hblanks hskipped, List.append_ne_nil_of_right_ne_nil skipped hne⟩
    · rw [marks_append, marks_removed, marks_keptPieces, List.append_assoc]
    · rw [outputs_append, outputs_keptPieces, outputs_removed, List.append_assoc]
  | next hmatch hgap' _ ih =>
    obtain ⟨ps', ms, blanks, hscan', hmarks, hms, houtputs, hblanks', hne'⟩ := ih hgap'
    obtain ⟨skipped, matched, hskipped, hscan⟩ := hM.scan_gap hmatch hgap hscan'
    refine ⟨_, skipped.map (fun a => (a, false)) ++ matched.map (fun a => (a, true)) ++ ms,
      skipped ++ fill ++ blanks, hscan, ?_, ?_, ?_, ?_,
      List.append_ne_nil_of_right_ne_nil _ hne'⟩
    · rw [marks_append, marks_removed, marks_keptPieces, hmarks]
      simp only [List.append_assoc]
    · intro x hx
      rcases List.mem_append.mp hx with hx | hx
      · exact goes_of_removed hskipped matched x hx
      · exact hms x hx
    · rw [outputs_append, outputs_keptPieces, outputs_removed, houtputs]
      simp only [List.append_assoc]
    · intro b hb
      rcases List.mem_append.mp hb with hb | hb
      · exact hblanks hskipped b hb
      · exact hblanks' b hb

theorem Scan.consumesExactly_of_exact {front text behind : List α} {ps : List (Piece α)}
    (h : Scan M (front ++ (text ++ behind)) ps)
    (hfront : ∀ a, front.getLast? = some a → blank a = false) (hne : text ≠ [])
    (hend : ∀ a, text.getLast? = some a → blank a = false)
    (hexact : Exact blank ps front text behind) : ConsumesExactly M blank front text behind := by
  obtain ⟨ms, ms', ms'', hmarks, rfl, rfl, -, hms, hms', hms''⟩ := hexact
  have hstays : Stays blank ((marks ps).take (ms.map Prod.fst).length) := by
    rw [hmarks, List.length_map, List.take_left]
    exact hms
  obtain ⟨hquiet, ps', hscan, hmarks'⟩ := h.front_none hM hfront hstays
  have hps : marks ps' = ms' ++ ms'' := by
    rw [hmarks'] at hmarks
    exact (List.append_inj hmarks (by rw [List.length_map, List.length_map])).2
  have hgoes : Goes blank ((marks ps').take (ms'.map Prod.fst).length) := by
    rw [hps, List.length_map, List.take_left]
    exact hms'
  have hkept : Stays blank ((marks ps').drop (ms'.map Prod.fst).length) := by
    rw [hps, List.length_map, List.drop_left]
    exact hms''
  obtain ⟨hconsumed, hbehind⟩ := hscan.consumed hM hne hend hgoes hkept
  exact ⟨hquiet, hconsumed, hbehind⟩

theorem Scan.exact_of_consumesExactly {front text behind : List α} {ps : List (Piece α)}
    (h : Scan M (front ++ (text ++ behind)) ps) (hfill : ∀ b ∈ fill, blank b = true)
    (hne : fill ≠ []) (hconsumes : ConsumesExactly M blank front text behind) :
    Exact blank ps front text behind ∧ ∃ blanks, (∀ b ∈ blanks, blank b = true) ∧ blanks ≠ [] ∧
      outputs fill ps = front ++ (blanks ++ behind) := by
  obtain ⟨gap, rest, hsplit, hgap, hconsumed⟩ := hconsumes.text
  obtain ⟨ps', ms, blanks, hscan, hmarks, hgoes, houtputs, hblanks, hne'⟩ :=
    hconsumed.scan hM hfill hne hgap hconsumes.behind.scan
  rw [← hsplit] at hscan
  rw [outputs_keptPieces] at houtputs
  rw [marks_keptPieces] at hmarks
  obtain rfl := h.unique hM (hscan.of_none front hconsumes.front)
  refine ⟨⟨front.map fun a => (a, false), ms, behind.map fun a => (a, false), ?_, map_fst_kept _,
    ?_, map_fst_kept _, stays_of_kept _ _, hgoes, stays_of_kept _ _⟩, blanks, hblanks, hne', ?_⟩
  · rw [marks_append, marks_keptPieces, hmarks]
  · have hfst := hscan.marks_fst
    rw [hmarks, List.map_append, map_fst_kept] at hfst
    exact List.append_cancel_right hfst
  · rw [outputs_append, outputs_keptPieces, houtputs]

/-- **Exactly the middle part goes** if matches consume it and nothing else, and then blanks stand
in its place. -/
theorem Scan.exact_iff {front text behind : List α} {ps : List (Piece α)}
    (h : Scan M (front ++ (text ++ behind)) ps) (hfill : ∀ b ∈ fill, blank b = true)
    (hfne : fill ≠ []) (hfront : ∀ a, front.getLast? = some a → blank a = false) (hne : text ≠ [])
    (hend : ∀ a, text.getLast? = some a → blank a = false) :
    (Exact blank ps front text behind ∧ ∃ blanks, (∀ b ∈ blanks, blank b = true) ∧ blanks ≠ [] ∧
      outputs fill ps = front ++ (blanks ++ behind)) ↔ ConsumesExactly M blank front text behind :=
  ⟨fun hexact => h.consumesExactly_of_exact hM hfront hne hend hexact.1,
    h.exact_of_consumesExactly hM hfill hfne⟩

end Exact

end Replacement
