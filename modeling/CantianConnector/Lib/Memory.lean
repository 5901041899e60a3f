import Mathlib.Data.List.Basic
import Mathlib.Logic.Nontrivial.Basic

/-!
# Flat memories

A memory is a function from addresses to cells. `read` and `write` move lists of cells; a
write is seen by a read of the same range and invisible to a read of a disjoint one; one that
is longer than its range shows next to it (`write_append_frame_iff`). Several writes leave a cell
alone whatever it holds exactly if none of them covers it (`writes_frame_iff`); writes and reads of
one field stay in it exactly if they are no longer than it is (`write_within_iff`,
`read_within_iff`). `shift` looks at a memory from an address on, `graft` puts such a view back, and
`Terminated` is a text that ends with the first terminator.
-/

/-- A memory with cells of type `α`. -/
abbrev Mem (α : Type) := Nat → α

namespace Mem

variable {α : Type} {m m' : Mem α}

/-- The `n` cells from address `off` on. -/
def read (m : Mem α) (off n : Nat) : List α := (List.range n).map fun i => m (off + i)

/-- The memory with the cells from address `off` on replaced. -/
def write (m : Mem α) (off : Nat) (cells : List α) : Mem α :=
  fun a => if off ≤ a then (cells[a - off]?).getD (m a) else m a

/-- The memory seen from address `off` on. -/
def shift (m : Mem α) (off : Nat) : Mem α := fun a => m (off + a)

@[simp] theorem length_read (m : Mem α) (off n : Nat) : (m.read off n).length = n := by
  simp [read]

@[simp] theorem write_nil (m : Mem α) (off : Nat) : m.write off [] = m := by
  funext a
  simp [write]

theorem getElem?_read (m : Mem α) {off n i : Nat} (h : i < n) :
    (m.read off n)[i]? = some (m (off + i)) := by
  simp [read, h]

theorem read_congr {off n : Nat} (h : ∀ a, off ≤ a → a < off + n → m a = m' a) :
    m.read off n = m'.read off n := by
  refine List.map_congr_left ?_
  intro i hi
  rw [List.mem_range] at hi
  exact h (off + i) (by omega) (by omega)

theorem read_add (m : Mem α) (off k n : Nat) :
    m.read off (k + n) = m.read off k ++ m.read (off + k) n := by
  unfold read
  rw [List.range_add, List.map_append, List.map_map]
  congr 1
  refine List.map_congr_left ?_
  intro i _
  simp [Nat.add_assoc]

theorem read_shift (m : Mem α) (off a n : Nat) : (m.shift off).read a n = m.read (off + a) n := by
  unfold read shift
  simp only [Nat.add_assoc]

theorem write_of_lt {off a : Nat} (cells : List α) (h : a < off) : m.write off cells a = m a := by
  rw [write, if_neg (by omega)]

theorem write_of_ge {off a : Nat} {cells : List α} (h : off + cells.length ≤ a) :
    m.write off cells a = m a := by
  rw [write]
  split
  · rw [List.getElem?_eq_none (by omega)]
    rfl
  · rfl

/-- A write leaves the addresses outside its range alone. -/
theorem write_outside {off a : Nat} {cells : List α} (h : a < off ∨ off + cells.length ≤ a) :
    m.write off cells a = m a := by
  rcases h with h | h
  · exact write_of_lt cells h
  · exact write_of_ge h

theorem write_inside {off i : Nat} {cells : List α} {c : α} (h : cells[i]? = some c) :
    m.write off cells (off + i) = c := by
  rw [write, if_pos (by omega), Nat.add_sub_cancel_left, h]
  rfl

/-- Reading what was written. -/
@[simp] theorem read_write_same (m : Mem α) (off : Nat) (cells : List α) :
    (m.write off cells).read off cells.length = cells := by
  refine List.ext_getElem? ?_
  intro i
  by_cases hi : i < cells.length
  · rw [getElem?_read _ hi]
    exact congrArg some (write_inside (List.getElem?_eq_getElem hi)) |>.trans
      (List.getElem?_eq_getElem hi).symm
  · rw [List.getElem?_eq_none (by simp; omega), List.getElem?_eq_none (by omega)]

theorem read_write_same' {off n : Nat} {cells : List α} (h : cells.length = n) :
    (m.write off cells).read off n = cells := by
  subst h
  exact read_write_same m off cells

/-- A write is invisible to a disjoint read. -/
theorem read_write_disjoint {off off' n : Nat} {cells : List α}
    (h : off' + n ≤ off ∨ off + cells.length ≤ off') :
    (m.write off cells).read off' n = m.read off' n := by
  apply read_congr
  intro a h1 h2
  exact write_outside (by omega)

/-- The first cells of a longer write. -/
theorem read_write_take {off n : Nat} {cells : List α} (h : n ≤ cells.length) :
    (m.write off cells).read off n = cells.take n := by
  have hfull := read_write_same m off cells
  rw [show cells.length = n + (cells.length - n) by omega, read_add] at hfull
  have htake := congrArg (List.take n) hfull
  rwa [List.take_append_of_le_length (by simp), List.take_of_length_le (by simp)] at htake

/-- Two writes one after the other. -/
theorem write_append (m : Mem α) (off : Nat) (as bs : List α) :
    m.write off (as ++ bs) = (m.write off as).write (off + as.length) bs := by
  funext a
  by_cases ha : a < off + as.length
  · rw [write_of_lt bs ha]
    unfold write
    by_cases hoff : off ≤ a
    · rw [if_pos hoff, if_pos hoff, List.getElem?_append_left (by omega)]
    · rw [if_neg hoff, if_neg hoff]
  · unfold write
    rw [if_pos (by omega), if_pos (by omega), List.getElem?_append_right (by omega),
      List.getElem?_eq_none (l := as) (by omega), Nat.sub_sub, if_pos (by omega)]
    rfl

/-- A write that goes past the range it is for keeps the cells there only if it repeats them. -/
theorem write_append_frame_iff (m : Mem α) (off : Nat) (as bs : List α) :
    (∀ a, a < off ∨ off + as.length ≤ a → m.write off (as ++ bs) a = m a) ↔
      m.read (off + as.length) bs.length = bs := by
  constructor
  · intro h
    have hread : m.read (off + as.length) bs.length =
        (m.write off (as ++ bs)).read (off + as.length) bs.length := by
      apply read_congr
      intro a ha _
      exact (h a (Or.inr ha)).symm
    rw [hread, write_append, read_write_same]
  · intro h a ha
    by_cases hin : off + as.length ≤ a ∧ a < off + as.length + bs.length
    · obtain ⟨i, rfl⟩ : ∃ i, a = off + as.length + i := ⟨a - (off + as.length), by omega⟩
      have hi : i < bs.length := by omega
      have hcell : (m.read (off + as.length) bs.length)[i]? = some (m (off + as.length + i)) :=
        getElem?_read m hi
      rw [h] at hcell
      rw [write_append]
      exact write_inside hcell
    · apply write_outside
      rw [List.length_append]
      omega

/-- Does one of the writes, each an address and its cells, cover the address? -/
def Covers (ws : List (Nat × List α)) (a : Nat) : Prop :=
  ∃ w ∈ ws, w.1 ≤ a ∧ a < w.1 + w.2.length

/-- Some writes one after the other. -/
def writes (m : Mem α) (ws : List (Nat × List α)) : Mem α :=
  ws.foldl (fun m w => m.write w.1 w.2) m

@[simp] theorem writes_cons (m : Mem α) (w : Nat × List α) (ws : List (Nat × List α)) :
    m.writes (w :: ws) = (m.write w.1 w.2).writes ws := rfl

theorem writes_append (m : Mem α) (ws ws' : List (Nat × List α)) :
    m.writes (ws ++ ws') = (m.writes ws).writes ws' := List.foldl_append

theorem writes_of_not_covers {ws : List (Nat × List α)} {a : Nat} (h : ¬Covers ws a) :
    m.writes ws a = m a := by
  induction ws generalizing m with
  | nil => rfl
  | cons w ws ih =>
    rw [writes_cons, ih fun ⟨w', hw', hin⟩ => h ⟨w', List.mem_cons_of_mem _ hw', hin⟩]
    refine write_outside ?_
    by_contra hin
    exact h ⟨w, List.mem_cons_self, by omega, by omega⟩

/-- A cell that is covered does not depend on the memory before. -/
theorem writes_of_covers {ws : List (Nat × List α)} {a : Nat} (h : Covers ws a) :
    ∃ c, ∀ m : Mem α, m.writes ws a = c := by
  induction ws with
  | nil =>
    obtain ⟨w, hw, -⟩ := h
    cases hw
  | cons w ws ih =>
    by_cases hrest : Covers ws a
    · obtain ⟨c, hc⟩ := ih hrest
      exact ⟨c, fun m => hc _⟩
    · -- the first write is the last one that covers the cell
      obtain ⟨w', hw', hin⟩ := h
      rcases List.mem_cons.mp hw' with rfl | hw'
      · have hi : a - w'.1 < w'.2.length := by omega
        refine ⟨w'.2[a - w'.1], fun m => ?_⟩
        rw [writes_cons, writes_of_not_covers hrest]
        have hcell : m.write w'.1 w'.2 (w'.1 + (a - w'.1)) = w'.2[a - w'.1] :=
          write_inside (List.getElem?_eq_getElem hi)
        rwa [Nat.add_sub_cancel' hin.1] at hcell
      · exact absurd ⟨w', hw', hin⟩ hrest

/-- Writes leave an address alone in every memory exactly if none covers it. -/
theorem writes_frame_iff [Nontrivial α] (ws : List (Nat × List α)) (a : Nat) :
    (∀ m : Mem α, m.writes ws a = m a) ↔ ¬Covers ws a := by
  constructor
  · intro h hcovers
    obtain ⟨c, hc⟩ := writes_of_covers hcovers
    obtain ⟨d, hd⟩ := exists_ne c
    exact hd ((h fun _ => d).symm.trans (hc _))
  · intro h m
    exact writes_of_not_covers h

/-- A write stays within `n` cells of its start exactly if it is no longer than that. -/
theorem write_within_iff [Nontrivial α] (off n : Nat) (cells : List α) :
    (∀ m : Mem α, ∀ a, a < off ∨ off + n ≤ a → m.write off cells a = m a) ↔ cells.length ≤ n := by
  constructor
  · intro h
    by_contra hlong
    have hframe : ∀ m : Mem α, m.writes [(off, cells)] (off + n) = m (off + n) :=
      fun m => h m (off + n) (Or.inr (Nat.le_refl _))
    refine (writes_frame_iff [(off, cells)] (off + n)).mp hframe ?_
    exact ⟨_, List.mem_cons_self, Nat.le_add_right off n, by dsimp only; omega⟩
  · intro h m a ha
    exact write_outside (by omega)

/-- A read depends on the `n` cells from its start only, exactly if it is no longer than that. -/
theorem read_within_iff [Nontrivial α] (off n k : Nat) :
    (∀ m m' : Mem α, (∀ a, off ≤ a → a < off + n → m a = m' a) → m.read off k = m'.read off k) ↔
      k ≤ n := by
  constructor
  · intro h
    by_contra hlong
    obtain ⟨c, d, hne⟩ := exists_pair_ne α
    have hread := h (fun _ => c) (fun a => if a < off + n then c else d) (fun a _ ha => by
      rw [if_pos ha])
    have hcell := congrArg (fun cells : List α => cells[n]?) hread
    rw [getElem?_read _ (by omega), getElem?_read _ (by omega), if_neg (Nat.lt_irrefl _)] at hcell
    exact hne (Option.some.inj hcell)
  · intro h m m' heq
    exact read_congr fun a h1 h2 => heq a h1 (by omega)

theorem drop_read (m : Mem α) (off : Nat) {k n : Nat} (h : k ≤ n) :
    (m.read off n).drop k = m.read (off + k) (n - k) := by
  obtain ⟨d, rfl⟩ : ∃ d, n = k + d := ⟨n - k, by omega⟩
  rw [read_add, List.drop_left' (length_read m off k), Nat.add_sub_cancel_left]

theorem take_read (m : Mem α) (off : Nat) {k n : Nat} (h : k ≤ n) :
    (m.read off n).take k = m.read off k := by
  obtain ⟨d, rfl⟩ : ∃ d, n = k + d := ⟨n - k, by omega⟩
  rw [read_add, List.take_left' (length_read m off k)]

/-- The memory whose cells from address `off` on are those of `m'`. -/
def graft (m : Mem α) (off : Nat) (m' : Mem α) : Mem α :=
  fun a => if off ≤ a then m' (a - off) else m a

theorem read_graft_self (m : Mem α) (off n : Nat) : (m.graft off m').read off n = m'.read 0 n := by
  refine List.map_congr_left ?_
  intro i _
  simp [graft]

theorem read_graft_before {off a n : Nat} (h : a + n ≤ off) :
    (m.graft off m').read a n = m.read a n := by
  apply read_congr
  intro b h1 h2
  exact if_neg (by omega)

/-- From address `off` on the memory holds this text with the first terminator behind it. -/
structure Terminated (z : α) (m : Mem α) (off : Nat) (text : List α) : Prop where
  not_mem : z ∉ text
  read : m.read off (text.length + 1) = text ++ [z]

theorem Terminated.getElem {z : α} {off : Nat} {text : List α} (h : Terminated z m off text)
    {i : Nat} (hi : i < text.length) : m (off + i) = text[i] := by
  have hcell := @getElem?_read _ m off _ _ (Nat.lt_succ_of_lt hi)
  rw [h.read, List.getElem?_append_left hi, List.getElem?_eq_getElem hi] at hcell
  exact (Option.some.inj hcell).symm

theorem Terminated.terminator {z : α} {off : Nat} {text : List α} (h : Terminated z m off text) :
    m (off + text.length) = z := by
  have hcell := @getElem?_read _ m off _ _ (Nat.lt_succ_self text.length)
  rw [h.read, List.getElem?_append_right (Nat.le_refl _), Nat.sub_self] at hcell
  exact (Option.some.inj hcell).symm

/-- A terminated text does not go on behind another one at the same address. -/
theorem Terminated.length_le {z : α} {off : Nat} {text text' : List α}
    (h : Terminated z m off text) (h' : Terminated z m off text') :
    text.length ≤ text'.length := by
  by_contra hlt
  have hi : text'.length < text.length := by omega
  refine h.not_mem ?_
  rw [← h'.terminator, h.getElem hi]
  exact List.getElem_mem hi

/-- There is one terminated text at an address. -/
theorem Terminated.unique {z : α} {off : Nat} {text text' : List α} (h : Terminated z m off text)
    (h' : Terminated z m off text') : text = text' := by
  have hlength := Nat.le_antisymm (h.length_le h') (h'.length_le h)
  have hread := h.read
  rw [hlength, h'.read] at hread
  exact (List.append_cancel_right hread).symm

end Mem
