import Mathlib.Data.List.Nodup

/-!
# Changing names in turn and at once

Names of a list are changed one after another; a change needs the old name to be in the list and the
new one not to be. Changes whose new names are all fresh do the same in turn as at once
(`inTurn_fresh`). Other changes, such as an exchange of two names, may fail in turn. They take a
detour: every old name first becomes a temporary one (`inTurn_detour`).
-/

namespace Renaming

variable {α : Type} [DecidableEq α]

/-! ## In turn and at once -/

/-- One name is changed. -/
def rename (old new : α) (names : List α) : Option (List α) :=
  if old ∈ names ∧ new ∉ names then some (names.map fun c => if c = old then new else c) else none

/-- Changes one after another. -/
def inTurn : List (α × α) → List α → Option (List α)
  | [], names => some names
  | change :: changes, names => (rename change.1 change.2 names).bind (inTurn changes)

/-- What a name is after all changes at once. -/
def atOnce (changes : List (α × α)) (c : α) : α := (changes.lookup c).getD c

theorem inTurn_append (changes changes' : List (α × α)) (names : List α) :
    inTurn (changes ++ changes') names = (inTurn changes names).bind (inTurn changes') := by
  induction changes generalizing names with
  | nil => rfl
  | cons change changes ih =>
    rw [List.cons_append, inTurn, inTurn, Option.bind_assoc]
    exact congrArg _ (funext ih)

@[simp] theorem atOnce_nil (c : α) : atOnce [] c = c := rfl

theorem atOnce_cons_self (c new : α) (changes : List (α × α)) :
    atOnce ((c, new) :: changes) c = new := by
  simp [atOnce]

theorem atOnce_cons_of_ne {c old new : α} (changes : List (α × α)) (h : c ≠ old) :
    atOnce ((old, new) :: changes) c = atOnce changes c := by
  have hbeq : (c == old) = false := beq_false_of_ne h
  simp [atOnce, List.lookup_cons, hbeq]

theorem atOnce_of_not_mem {changes : List (α × α)} {c : α} (h : c ∉ changes.map Prod.fst) :
    atOnce changes c = c := by
  induction changes with
  | nil => rfl
  | cons change changes ih =>
    rw [List.map_cons, List.mem_cons, not_or] at h
    rw [atOnce_cons_of_ne changes h.1]
    exact ih h.2

theorem atOnce_of_mem {changes : List (α × α)} (hold : (changes.map Prod.fst).Nodup) {old new : α}
    (h : (old, new) ∈ changes) : atOnce changes old = new := by
  induction changes with
  | nil => cases h
  | cons change changes ih =>
    rw [List.map_cons, List.nodup_cons] at hold
    rcases List.mem_cons.mp h with rfl | hrest
    · exact atOnce_cons_self _ _ _
    · have hne : old ≠ change.1 := by
        intro heq
        exact hold.1 (List.mem_map.mpr ⟨(old, new), hrest, heq⟩)
      rw [atOnce_cons_of_ne changes hne]
      exact ih hold.2 hrest

/-! ## Fresh names -/

/-- **Fresh names.** If no new name is there yet, changes in turn are changes at once. -/
theorem inTurn_fresh {changes : List (α × α)} {names : List α}
    (hold : ∀ p ∈ changes, p.1 ∈ names) (holds : (changes.map Prod.fst).Nodup)
    (hnew : ∀ p ∈ changes, p.2 ∉ names) (hnews : (changes.map Prod.snd).Nodup) :
    inTurn changes names = some (names.map (atOnce changes)) := by
  induction changes generalizing names with
  | nil =>
    have hid : (atOnce [] : α → α) = id := funext atOnce_nil
    rw [hid, List.map_id]
    rfl
  | cons change changes ih =>
    obtain ⟨old, new⟩ := change
    rw [List.map_cons, List.nodup_cons] at holds hnews
    obtain ⟨holdHere, holdRest⟩ := List.forall_mem_cons.mp hold
    obtain ⟨hnewHere, hnewRest⟩ := List.forall_mem_cons.mp hnew
    have hstep : rename old new names = some (names.map fun c => if c = old then new else c) :=
      if_pos ⟨holdHere, hnewHere⟩
    rw [inTurn, hstep, Option.bind_some, ih, List.map_map]
    · -- the new name is not changed again, as it is the old name of no change
      congr 1
      apply List.map_congr_left
      intro c _
      by_cases hc : c = old
      · have hlast : new ∉ changes.map Prod.fst := by
          intro hmem
          obtain ⟨p, hp, rfl⟩ := List.mem_map.mp hmem
          exact hnewHere (holdRest p hp)
        rw [hc, Function.comp_apply, if_pos rfl, atOnce_cons_self, atOnce_of_not_mem hlast]
      · rw [Function.comp_apply, if_neg hc, atOnce_cons_of_ne changes hc]
    · intro p hp
      have hne : p.1 ≠ old := by
        intro heq
        exact holds.1 (List.mem_map.mpr ⟨p, hp, heq⟩)
      exact List.mem_map.mpr ⟨p.1, holdRest p hp, if_neg hne⟩
    · exact holds.2
    · intro p hp hmem
      obtain ⟨c, hc, heq⟩ := List.mem_map.mp hmem
      split at heq
      · apply hnews.1
        exact List.mem_map.mpr ⟨p, hp, heq.symm⟩
      · exact hnewRest p hp (heq ▸ hc)
    · exact hnews.2

/-! ## The detour -/

/-- Every old name becomes a temporary name, and then every temporary name the new one. -/
def detour (changes : List (α × α)) (temps : List α) : List (α × α) :=
  (changes.zip temps).map (fun q => (q.1.1, q.2)) ++ (changes.zip temps).map fun q => (q.2, q.1.2)

section

variable {changes : List (α × α)} {temps : List α} {names : List α}

omit [DecidableEq α] in
theorem map_zip_fst (hlen : temps.length = changes.length) {β : Type} (f : α × α → β) :
    (changes.zip temps).map (fun q => f q.1) = changes.map f := by
  have hfst : (changes.zip temps).map Prod.fst = changes := List.map_fst_zip (Nat.le_of_eq hlen.symm)
  calc (changes.zip temps).map (fun q => f q.1)
      = ((changes.zip temps).map Prod.fst).map f := List.map_map.symm
    _ = changes.map f := by rw [hfst]

omit [DecidableEq α] in
theorem map_zip_snd (hlen : temps.length = changes.length) :
    (changes.zip temps).map (fun q => q.2) = temps :=
  List.map_snd_zip (Nat.le_of_eq hlen)

/-! ### The way there and back -/

/-- The old names become temporary. -/
def toTemps (changes : List (α × α)) (temps : List α) : List (α × α) :=
  (changes.zip temps).map fun q => (q.1.1, q.2)

/-- The temporary names become the new ones. -/
def fromTemps (changes : List (α × α)) (temps : List α) : List (α × α) :=
  (changes.zip temps).map fun q => (q.2, q.1.2)

omit [DecidableEq α] in
theorem toTemps_fst (hlen : temps.length = changes.length) :
    (toTemps changes temps).map Prod.fst = changes.map Prod.fst := by
  rw [toTemps, List.map_map]
  exact map_zip_fst hlen Prod.fst

omit [DecidableEq α] in
theorem toTemps_snd (hlen : temps.length = changes.length) :
    (toTemps changes temps).map Prod.snd = temps := by
  rw [toTemps, List.map_map]
  exact map_zip_snd hlen

omit [DecidableEq α] in
theorem fromTemps_fst (hlen : temps.length = changes.length) :
    (fromTemps changes temps).map Prod.fst = temps := by
  rw [fromTemps, List.map_map]
  exact map_zip_snd hlen

omit [DecidableEq α] in
theorem fromTemps_snd (hlen : temps.length = changes.length) :
    (fromTemps changes temps).map Prod.snd = changes.map Prod.snd := by
  rw [fromTemps, List.map_map]
  exact map_zip_fst hlen Prod.snd

variable (hlen : temps.length = changes.length) (holds : (changes.map Prod.fst).Nodup)

include hlen holds

/-- On the way, an old name is the temporary name of its change. -/
theorem atOnce_toTemps {q : (α × α) × α} (hq : q ∈ changes.zip temps) :
    atOnce (toTemps changes temps) q.1.1 = q.2 := by
  apply atOnce_of_mem
  · rw [toTemps_fst hlen]
    exact holds
  · exact List.mem_map.mpr ⟨q, hq, rfl⟩

omit holds in
theorem atOnce_toTemps_of_not_mem {c : α} (hc : c ∉ changes.map Prod.fst) :
    atOnce (toTemps changes temps) c = c := by
  apply atOnce_of_not_mem
  rw [toTemps_fst hlen]
  exact hc

omit [DecidableEq α] holds in
/-- The temporary name of an old name. -/
theorem exists_zip_of_mem {c : α} (hc : c ∈ changes.map Prod.fst) :
    ∃ q ∈ changes.zip temps, q.1.1 = c := by
  rw [← map_zip_fst hlen Prod.fst] at hc
  exact List.mem_map.mp hc

variable (hold : ∀ p ∈ changes, p.1 ∈ names)
  (hfresh : ∀ t ∈ temps, t ∉ names ∧ t ∉ changes.map Prod.snd)

include hold hfresh

/-- The way there: the temporary names are fresh. -/
theorem inTurn_toTemps (htemps : temps.Nodup) :
    inTurn (toTemps changes temps) names =
      some (names.map (atOnce (toTemps changes temps))) := by
  apply inTurn_fresh
  · intro p hp
    have hp' : p.1 ∈ changes.map Prod.fst := toTemps_fst hlen ▸ List.mem_map_of_mem hp
    obtain ⟨p', hp', heq⟩ := List.mem_map.mp hp'
    exact heq ▸ hold p' hp'
  · rw [toTemps_fst hlen]
    exact holds
  · intro p hp
    have hp' : p.2 ∈ temps := toTemps_snd hlen ▸ List.mem_map_of_mem hp
    exact (hfresh _ hp').1
  · rw [toTemps_snd hlen]
    exact htemps

/-- On the way, the new names have become free. -/
theorem not_mem_toTemps
    (hinj : ∀ c ∈ names, ∀ c' ∈ names, atOnce changes c = atOnce changes c' → c = c')
    {p : α × α} (hp : p ∈ changes) : p.2 ∉ names.map (atOnce (toTemps changes temps)) := by
  intro hmem
  obtain ⟨c, hc, heq⟩ := List.mem_map.mp hmem
  by_cases hsrc : c ∈ changes.map Prod.fst
  · -- a name that has become temporary is no new name
    obtain ⟨q, hq, rfl⟩ := exists_zip_of_mem hlen hsrc
    have htemp : q.2 ∈ temps := (List.of_mem_zip hq).2
    apply (hfresh _ htemp).2
    rw [← atOnce_toTemps hlen holds hq, heq]
    exact List.mem_map.mpr ⟨p, hp, rfl⟩
  · -- a name that stays would be there twice in the end
    have hsame : c = p.1 := by
      apply hinj c hc p.1 (hold p hp)
      rw [atOnce_of_not_mem hsrc, atOnce_of_mem holds hp,
        ← atOnce_toTemps_of_not_mem hlen hsrc]
      exact heq
    apply hsrc
    rw [hsame]
    exact List.mem_map_of_mem hp

omit hlen hfresh in
theorem nodup_news
    (hinj : ∀ c ∈ names, ∀ c' ∈ names, atOnce changes c = atOnce changes c' → c = c') :
    (changes.map Prod.snd).Nodup := by
  have hnews : changes.map Prod.snd = (changes.map Prod.fst).map (atOnce changes) := by
    rw [List.map_map]
    apply List.map_congr_left
    intro p hp
    exact (atOnce_of_mem holds hp).symm
  rw [hnews]
  apply List.Nodup.map_on _ holds
  intro c hc c' hc' heq
  obtain ⟨p, hp, rfl⟩ := List.mem_map.mp hc
  obtain ⟨p', hp', rfl⟩ := List.mem_map.mp hc'
  exact hinj _ (hold p hp) _ (hold p' hp') heq

/-- The way back. -/
theorem inTurn_fromTemps (htemps : temps.Nodup)
    (hinj : ∀ c ∈ names, ∀ c' ∈ names, atOnce changes c = atOnce changes c' → c = c') :
    inTurn (fromTemps changes temps) (names.map (atOnce (toTemps changes temps))) =
      some ((names.map (atOnce (toTemps changes temps))).map
        (atOnce (fromTemps changes temps))) := by
  apply inTurn_fresh
  · intro p hp
    obtain ⟨q, hq, rfl⟩ := List.mem_map.mp hp
    have hmem := hold q.1 (List.of_mem_zip hq).1
    exact List.mem_map.mpr ⟨q.1.1, hmem, atOnce_toTemps hlen holds hq⟩
  · rw [fromTemps_fst hlen]
    exact htemps
  · intro p hp
    obtain ⟨q, hq, rfl⟩ := List.mem_map.mp hp
    have hfree := not_mem_toTemps hlen holds hold hfresh hinj (List.of_mem_zip hq).1
    exact hfree
  · rw [fromTemps_snd hlen]
    exact nodup_news holds hold hinj

omit hold in
/-- There and back, a name becomes what it is after all changes at once. -/
theorem atOnce_fromTemps_toTemps (htemps : temps.Nodup) {c : α} (hc : c ∈ names) :
    atOnce (fromTemps changes temps) (atOnce (toTemps changes temps) c) = atOnce changes c := by
  by_cases hsrc : c ∈ changes.map Prod.fst
  · obtain ⟨q, hq, rfl⟩ := exists_zip_of_mem hlen hsrc
    rw [atOnce_toTemps hlen holds hq, atOnce_of_mem holds (List.of_mem_zip hq).1]
    apply atOnce_of_mem
    · rw [fromTemps_fst hlen]
      exact htemps
    · exact List.mem_map.mpr ⟨q, hq, rfl⟩
  · rw [atOnce_toTemps_of_not_mem hlen hsrc, atOnce_of_not_mem hsrc]
    apply atOnce_of_not_mem
    rw [fromTemps_fst hlen]
    intro htemp
    exact (hfresh c htemp).1 hc

/-- **The detour.** If the names are distinct after all changes at once, the detour over names that
are new to everybody does these changes. -/
theorem inTurn_detour (htemps : temps.Nodup) (hresult : (names.map (atOnce changes)).Nodup) :
    inTurn (detour changes temps) names = some (names.map (atOnce changes)) := by
  have hinj : ∀ c ∈ names, ∀ c' ∈ names, atOnce changes c = atOnce changes c' → c = c' :=
    List.inj_on_of_nodup_map hresult
  have hdetour : detour changes temps = toTemps changes temps ++ fromTemps changes temps := rfl
  rw [hdetour, inTurn_append, inTurn_toTemps hlen holds hold hfresh htemps, Option.bind_some,
    inTurn_fromTemps hlen holds hold hfresh htemps hinj, List.map_map]
  congr 1
  apply List.map_congr_left
  intro c hc
  exact atOnce_fromTemps_toTemps hlen holds hfresh htemps hc

end

end Renaming
