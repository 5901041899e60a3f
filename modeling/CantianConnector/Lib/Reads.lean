import CantianConnector.Lib.Memory

/-!
# Computations that read cells one by one

A computation asks for a cell and goes on with what it holds, until it has its value. On a memory
it has a value and the list of the places that it reads, in order. It depends on no other place
(`value_congr`), so that the places tell exactly which part of the memory is used.
-/

/-- A computation of an `α` that reads cells of type `β` at places of type `κ`. -/
inductive Reads (κ β α : Type) where
  | done (value : α)
  | cell (place : κ) (next : β → Reads κ β α)

namespace Reads

variable {κ β α γ : Type} {m m' : κ → β}

/-- A computation, and one that depends on its value. -/
def bind : Reads κ β α → (α → Reads κ β γ) → Reads κ β γ
  | done a, f => f a
  | cell k next, f => cell k fun b => (next b).bind f

/-- The value on a memory. -/
def value (m : κ → β) : Reads κ β α → α
  | done a => a
  | cell k next => (next (m k)).value m

/-- The places that are read in a memory. -/
def places (m : κ → β) : Reads κ β α → List κ
  | done _ => []
  | cell k next => k :: (next (m k)).places m

@[simp] theorem value_done (a : α) : (done a : Reads κ β α).value m = a := rfl

@[simp] theorem value_cell (k : κ) (next : β → Reads κ β α) :
    (cell k next).value m = (next (m k)).value m := rfl

@[simp] theorem places_done (a : α) : (done a : Reads κ β α).places m = [] := rfl

@[simp] theorem places_cell (k : κ) (next : β → Reads κ β α) :
    (cell k next).places m = k :: (next (m k)).places m := rfl

@[simp] theorem done_bind (a : α) (f : α → Reads κ β γ) : (done a).bind f = f a := rfl

@[simp] theorem value_bind (c : Reads κ β α) (f : α → Reads κ β γ) :
    (c.bind f).value m = (f (c.value m)).value m := by
  induction c with
  | done a => rfl
  | cell k next ih => exact ih (m k)

@[simp] theorem places_bind (c : Reads κ β α) (f : α → Reads κ β γ) :
    (c.bind f).places m = c.places m ++ (f (c.value m)).places m := by
  induction c with
  | done a => rfl
  | cell k next ih => exact congrArg (k :: ·) (ih (m k))

/-- **A computation depends on the places it reads and on no other.** -/
theorem value_congr {c : Reads κ β α} (h : ∀ k ∈ c.places m, m k = m' k) :
    c.value m = c.value m' := by
  induction c with
  | done a => rfl
  | cell k next ih =>
    have hk : m k = m' k := h k List.mem_cons_self
    rw [value_cell, value_cell, ih (m k) fun k' hk' => h k' (List.mem_cons_of_mem _ hk'), hk]

/-- Some cells one after the other, from address `off` on. -/
def block (place : Nat → κ) (off : Nat) : Nat → Reads κ β (List β)
  | 0 => done []
  | n + 1 => cell (place off) fun b => (block place (off + 1) n).bind fun bs => done (b :: bs)

theorem read_succ (m : Mem β) (off n : Nat) : m.read off (n + 1) = m off :: m.read (off + 1) n := by
  rw [Nat.add_comm n 1, Mem.read_add]
  rfl

theorem value_block (place : Nat → κ) (off n : Nat) :
    (block place off n).value m = Mem.read (fun i => m (place i)) off n := by
  induction n generalizing off with
  | zero => rfl
  | succ n ih =>
    rw [read_succ]
    simp [block, ih]

theorem forall_places_block {place : Nat → κ} {off n : Nat} {p : κ → Prop} :
    (∀ k ∈ (block place off n : Reads κ β (List β)).places m, p k) ↔
      ∀ i, off ≤ i → i < off + n → p (place i) := by
  induction n generalizing off with
  | zero =>
    constructor
    · intro _ i h1 h2
      omega
    · intro _ k hk
      cases hk
  | succ n ih =>
    simp only [block, places_cell, places_bind, places_done, List.append_nil, List.forall_mem_cons,
      ih]
    constructor
    · rintro ⟨hoff, hrest⟩ i h1 h2
      rcases Nat.eq_or_lt_of_le h1 with rfl | hlt
      · exact hoff
      · exact hrest i hlt (by omega)
    · intro h
      exact ⟨h off (Nat.le_refl off) (by omega), fun i h1 h2 => h i (by omega) (by omega)⟩

/-- The cells up to the first that holds the terminator, at most `n` of them. -/
def upTo [DecidableEq β] (terminator : β) (place : Nat → κ) (off : Nat) : Nat → Reads κ β (List β)
  | 0 => done []
  | n + 1 =>
    cell (place off) fun b =>
      if b = terminator then done []
      else (upTo terminator place (off + 1) n).bind fun bs => done (b :: bs)

/-- How many cells `upTo` looks at: those in front of the terminator, and the terminator. -/
def scanned [DecidableEq β] (terminator : β) (cells : List β) : Nat :=
  min cells.length ((cells.takeWhile fun b => b != terminator).length + 1)

theorem scanned_le [DecidableEq β] (terminator : β) (cells : List β) :
    scanned terminator cells ≤ cells.length :=
  Nat.min_le_left _ _

theorem value_upTo [DecidableEq β] (terminator : β) (place : Nat → κ) (off n : Nat) :
    (upTo terminator place off n).value m =
      (Mem.read (fun i => m (place i)) off n).takeWhile fun b => b != terminator := by
  induction n generalizing off with
  | zero => rfl
  | succ n ih =>
    rw [read_succ, List.takeWhile_cons]
    by_cases hb : m (place off) = terminator
    · simp [upTo, hb]
    · simp [upTo, hb, ih]

theorem forall_places_upTo [DecidableEq β] {terminator : β} {place : Nat → κ} {off n : Nat}
    {p : κ → Prop} :
    (∀ k ∈ (upTo terminator place off n).places m, p k) ↔
      ∀ i, off ≤ i →
        i < off + scanned terminator (Mem.read (fun i => m (place i)) off n) → p (place i) := by
  induction n generalizing off with
  | zero =>
    constructor
    · intro _ i h1 h2
      simp [scanned] at h2
      omega
    · intro _ k hk
      cases hk
  | succ n ih =>
    rw [read_succ]
    by_cases hb : m (place off) = terminator
    · have hone : scanned terminator (m (place off) ::
          Mem.read (fun i => m (place i)) (off + 1) n) = 1 := by
        simp [scanned, hb]
      rw [hone]
      simp only [upTo, places_cell, if_pos hb, places_done, List.forall_mem_singleton]
      constructor
      · intro hoff i h1 h2
        obtain rfl : i = off := by omega
        exact hoff
      · exact fun h => h off (Nat.le_refl off) (Nat.lt_succ_self off)
    · have hmore : scanned terminator (m (place off) ::
          Mem.read (fun i => m (place i)) (off + 1) n) =
          scanned terminator (Mem.read (fun i => m (place i)) (off + 1) n) + 1 := by
        simp [scanned, hb]
      rw [hmore]
      simp only [upTo, places_cell, if_neg hb, places_bind, places_done, List.append_nil,
        List.forall_mem_cons, ih]
      constructor
      · rintro ⟨hoff, hrest⟩ i h1 h2
        rcases Nat.eq_or_lt_of_le h1 with rfl | hlt
        · exact hoff
        · exact hrest i hlt (by omega)
      · intro h
        exact ⟨h off (Nat.le_refl off) (by omega), fun i h1 h2 => h i (by omega) (by omega)⟩

/-- From the end of a range downwards, the cells up to the first that holds another one; the value
is the length that is left. -/
def trim [DecidableEq β] (pad : β) (place : Nat → κ) (off : Nat) : Nat → Reads κ β Nat
  | 0 => done 0
  | n + 1 =>
    cell (place (off + n)) fun b => if b = pad then trim pad place off n else done (n + 1)

theorem value_trim [DecidableEq β] (pad : β) (place : Nat → κ) (off n : Nat) :
    (trim pad place off n).value m =
      ((Mem.read (fun i => m (place i)) off n).reverse.dropWhile (· == pad)).length := by
  induction n with
  | zero => rfl
  | succ n ih =>
    have hlast : Mem.read (fun i => m (place i)) (off + n) 1 = [m (place (off + n))] := rfl
    rw [Mem.read_add, hlast, List.reverse_append, List.reverse_singleton, List.singleton_append,
      List.dropWhile_cons]
    by_cases hb : m (place (off + n)) = pad
    · simp [trim, hb, ih]
    · simp [trim, hb]

theorem mem_places_trim [DecidableEq β] {pad : β} {place : Nat → κ} {off n : Nat} {k : κ}
    (h : k ∈ (trim pad place off n).places m) : ∃ i, off ≤ i ∧ i < off + n ∧ k = place i := by
  induction n with
  | zero => cases h
  | succ n ih =>
    rw [trim, places_cell] at h
    rcases List.mem_cons.mp h with rfl | h
    · exact ⟨off + n, by omega, by omega, rfl⟩
    · split at h
      · obtain ⟨i, h1, h2, hi⟩ := ih h
        exact ⟨i, h1, by omega, hi⟩
      · cases h

end Reads
