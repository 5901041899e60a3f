import CantianConnector.Pushdown.Fill

/-!
# Wildcards of wide patterns

The engine compares LIKE patterns byte by byte and knows the one-byte wildcards only, so
`update_value_by_charset` narrows the wildcards of a pattern whose characters take at least
`mbminlen = bytes + 1` bytes. Its loop looks at single bytes, not at characters: a byte `0x5F` or
`0x25` of any other character also takes the place of the bytes before it. Every such byte costs
`bytes` bytes of the pattern (`updateValueLoop_length`), so the pattern comes out right exactly
if no other character has one (`narrowsWildcards_iff`).
-/

namespace CantianConnector.Pushdown

open CantianConnector.Convert

/-! ## Patterns -/

/-- The bytes of `'_'` and `'%'`. -/
def wildByte (b : UInt8) : Bool := b == 0x5F || b == 0x25

/-- The character `'_'` or `'%'` in one big-endian code unit of `mbminlen` bytes. -/
def isWildcard (mbminlen : Nat) (c : List UInt8) : Bool :=
  c == List.replicate (mbminlen - 1) 0 ++ [0x5F] || c == List.replicate (mbminlen - 1) 0 ++ [0x25]

/-- A character as the engine is to see it: a wildcard in one byte, any other one unchanged. -/
def narrow (mbminlen : Nat) (c : List UInt8) : List UInt8 :=
  if isWildcard mbminlen c then c.drop (mbminlen - 1) else c

/-- The pattern with the characters `chars` is narrowed: no write leaves the buffer, the
wildcards become single bytes, the other characters stay as they are and in order, and `*size`
shrinks by `mbminlen - 1` for each wildcard. -/
def NarrowsWildcards (mbminlen : Nat) (chars : List (List UInt8)) : Prop :=
  ∃ data, updateValueByCharset chars.flatten (mbminlen - 1) = .ok data ∧
    data = chars.flatMap (narrow mbminlen) ∧
    data.length + (mbminlen - 1) * chars.countP (isWildcard mbminlen) = chars.flatten.length

/-- No character but the wildcards has a byte that looks like one. -/
def OnlyWildcards (mbminlen : Nat) (chars : List (List UInt8)) : Prop :=
  ∀ c ∈ chars, isWildcard mbminlen c = false → ∀ b ∈ c, wildByte b = false

theorem wildByte_iff (b : UInt8) : wildByte b = true ↔ b = 0x5F ∨ b = 0x25 := by
  simp [wildByte]

/-- A wildcard ends in its only byte that looks like one. -/
theorem isWildcard_cases {mbminlen : Nat} {c : List UInt8} (h : isWildcard mbminlen c = true) :
    ∃ b, wildByte b = true ∧ c = List.replicate (mbminlen - 1) 0 ++ [b] := by
  simp only [isWildcard, Bool.or_eq_true, beq_iff_eq] at h
  rcases h with h | h
  · exact ⟨0x5F, rfl, h⟩
  · exact ⟨0x25, rfl, h⟩

theorem countP_zeros (k : Nat) : (List.replicate k (0 : UInt8)).countP wildByte = 0 := by
  rw [List.countP_replicate]
  rfl

theorem countP_wildcard {mbminlen : Nat} {c : List UInt8} (h : isWildcard mbminlen c = true) :
    c.countP wildByte = 1 := by
  obtain ⟨b, hb, rfl⟩ := isWildcard_cases h
  rw [List.countP_append, countP_zeros, List.countP_singleton, if_pos hb]

/-! ## The loop -/

theorem updateValueLoop_wild {bytes : Nat} {b : UInt8} {rest out : List UInt8}
    (hb : wildByte b = true) (hout : bytes ≤ out.length) :
    updateValueLoop bytes (b :: rest) out =
      updateValueLoop bytes rest (out.take (out.length - bytes) ++ [b]) := by
  rw [updateValueLoop, if_pos ((wildByte_iff b).mp hb), if_neg (by omega)]

/-- Bytes that do not look like a wildcard are copied. -/
theorem updateValueLoop_copy {bytes : Nat} {data : List UInt8}
    (h : ∀ b ∈ data, wildByte b = false) (rest out : List UInt8) :
    updateValueLoop bytes (data ++ rest) out = updateValueLoop bytes rest (out ++ data) := by
  induction data generalizing out with
  | nil => rw [List.nil_append, List.append_nil]
  | cons b data ih =>
    have hb : ¬ (b = 0x5F ∨ b = 0x25) := by
      rw [← wildByte_iff, h b List.mem_cons_self]
      exact Bool.false_ne_true
    have hrest := ih fun b' hb' => h b' (List.mem_cons_of_mem _ hb')
    rw [List.cons_append, updateValueLoop, if_neg hb, hrest, List.append_assoc,
      List.singleton_append]

/-- A wildcard takes the place of its own zeros. -/
theorem updateValueLoop_wildcard {mbminlen : Nat} {c : List UInt8}
    (h : isWildcard mbminlen c = true) (rest out : List UInt8) :
    updateValueLoop (mbminlen - 1) (c ++ rest) out =
      updateValueLoop (mbminlen - 1) rest (out ++ narrow mbminlen c) := by
  rw [narrow, if_pos h]
  obtain ⟨b, hb, rfl⟩ := isWildcard_cases h
  have hzeros : ∀ z ∈ List.replicate (mbminlen - 1) (0 : UInt8), wildByte z = false := by
    intro z hz
    rw [List.eq_of_mem_replicate hz]
    rfl
  rw [List.append_assoc, updateValueLoop_copy hzeros, List.singleton_append,
    updateValueLoop_wild hb (by rw [List.length_append, List.length_replicate]; omega),
    List.length_append, List.length_replicate, Nat.add_sub_cancel, List.take_left,
    List.drop_left' (List.length_replicate ..)]

/-- The loop over whole characters. -/
theorem updateValueLoop_chars {mbminlen : Nat} {chars : List (List UInt8)}
    (h : OnlyWildcards mbminlen chars) (out : List UInt8) :
    updateValueLoop (mbminlen - 1) chars.flatten out =
      .ok (out ++ chars.flatMap (narrow mbminlen)) := by
  induction chars generalizing out with
  | nil =>
    rw [List.flatten_nil, List.flatMap_nil, List.append_nil]
    rfl
  | cons c cs ih =>
    have hrest := ih fun c' hc' => h c' (List.mem_cons_of_mem _ hc')
    rw [List.flatten_cons, List.flatMap_cons, ← List.append_assoc]
    cases hc : isWildcard mbminlen c with
    | true => rw [updateValueLoop_wildcard hc, hrest]
    | false =>
      have hnarrow : narrow mbminlen c = c := by rw [narrow, hc, if_neg Bool.false_ne_true]
      rw [updateValueLoop_copy (h c List.mem_cons_self hc), hrest, hnarrow]

/-- **Every byte that looks like a wildcard costs `bytes` bytes**, whatever it belongs to. -/
theorem updateValueLoop_length {bytes : Nat} {data out result : List UInt8}
    (h : updateValueLoop bytes data out = .ok result) :
    result.length + bytes * data.countP wildByte = out.length + data.length := by
  induction data generalizing out with
  | nil =>
    cases h
    rfl
  | cons b rest ih =>
    rw [updateValueLoop] at h
    by_cases hb : b = 0x5F ∨ b = 0x25
    · rw [if_pos hb] at h
      split at h
      · cases h
      · rename_i hout
        have hlen := ih h
        rw [List.length_append, List.length_take, List.length_singleton] at hlen
        rw [List.countP_cons_of_pos ((wildByte_iff b).mpr hb), Nat.mul_add, List.length_cons]
        omega
    · rw [if_neg hb] at h
      have hlen := ih h
      rw [List.length_append, List.length_singleton] at hlen
      rw [List.countP_cons_of_neg (fun hw => hb ((wildByte_iff b).mp hw)), List.length_cons]
      omega

/-! ## Counting wildcards -/

theorem countP_isWildcard_le (mbminlen : Nat) (chars : List (List UInt8)) :
    chars.countP (isWildcard mbminlen) ≤ chars.flatten.countP wildByte := by
  induction chars with
  | nil => exact le_rfl
  | cons c cs ih =>
    rw [List.flatten_cons, List.countP_append, List.countP_cons]
    split
    · rename_i hc
      rw [countP_wildcard hc]
      omega
    · omega

/-- If there are as many such bytes as wildcards, they are those of the wildcards. -/
theorem onlyWildcards_of_countP {mbminlen : Nat} {chars : List (List UInt8)}
    (h : chars.flatten.countP wildByte ≤ chars.countP (isWildcard mbminlen)) :
    OnlyWildcards mbminlen chars := by
  induction chars with
  | nil =>
    intro c hc
    cases hc
  | cons c cs ih =>
    have hle := countP_isWildcard_le mbminlen cs
    rw [List.flatten_cons, List.countP_append, List.countP_cons] at h
    intro c' hc' hnot
    cases hc : isWildcard mbminlen c with
    | true =>
      rw [countP_wildcard hc, hc, if_pos rfl] at h
      rcases List.mem_cons.mp hc' with rfl | hc'
      · rw [hc] at hnot
        cases hnot
      · exact ih (by omega) c' hc' hnot
    | false =>
      rw [hc, if_neg Bool.false_ne_true] at h
      rcases List.mem_cons.mp hc' with rfl | hc'
      · have hzero : c'.countP wildByte = 0 := by omega
        intro b hb
        exact Bool.eq_false_iff.mpr (List.countP_eq_zero.mp hzero b hb)
      · exact ih (by omega) c' hc' hnot

theorem length_narrow {mbminlen : Nat} (hm : 2 ≤ mbminlen) (c : List UInt8) :
    (narrow mbminlen c).length + (mbminlen - 1) * (if isWildcard mbminlen c then 1 else 0) =
      c.length := by
  cases hc : isWildcard mbminlen c with
  | true =>
    rw [narrow, if_pos hc, if_pos rfl]
    obtain ⟨b, -, rfl⟩ := isWildcard_cases hc
    rw [List.length_drop, List.length_append, List.length_replicate, List.length_singleton]
    omega
  | false =>
    rw [narrow, hc, if_neg Bool.false_ne_true, if_neg Bool.false_ne_true]
    rfl

theorem length_flatMap_narrow {mbminlen : Nat} (hm : 2 ≤ mbminlen) (chars : List (List UInt8)) :
    (chars.flatMap (narrow mbminlen)).length +
      (mbminlen - 1) * chars.countP (isWildcard mbminlen) = chars.flatten.length := by
  induction chars with
  | nil => rfl
  | cons c cs ih =>
    have hc := length_narrow hm c
    rw [List.flatMap_cons, List.flatten_cons, List.length_append, List.length_append,
      List.countP_cons, Nat.mul_add]
    omega

/-! ## Patterns that come out right -/

/-- **A pattern is narrowed right exactly if no other character has a byte `0x5F` or `0x25`.** -/
theorem narrowsWildcards_iff {mbminlen : Nat} (hm : 2 ≤ mbminlen) (chars : List (List UInt8)) :
    NarrowsWildcards mbminlen chars ↔ OnlyWildcards mbminlen chars := by
  have hne : mbminlen - 1 ≠ 0 := by omega
  have hsize := length_flatMap_narrow hm chars
  unfold NarrowsWildcards updateValueByCharset
  rw [if_neg hne]
  constructor
  · rintro ⟨data, hrun, rfl, -⟩
    have hlen := updateValueLoop_length hrun
    rw [← hsize, List.length_nil, Nat.zero_add, Nat.add_left_cancel_iff] at hlen
    apply onlyWildcards_of_countP
    exact (Nat.eq_of_mul_eq_mul_left (by omega) hlen).le
  · intro h
    refine ⟨chars.flatMap (narrow mbminlen), ?_, rfl, hsize⟩
    rw [updateValueLoop_chars h, List.nil_append]

/-- `a_%` in UTF-16: the zero bytes in front of the wildcards are gone. -/
theorem narrowsWildcards_iff_utf16 :
    (NarrowsWildcards 2 [[0, 0x61], [0, 0x5F], [0, 0x25]] ↔
      OnlyWildcards 2 [[0, 0x61], [0, 0x5F], [0, 0x25]]) ∧
    updateValueByCharset [0, 0x61, 0, 0x5F, 0, 0x25] 1 = .ok [0, 0x61, 0x5F, 0x25] :=
  ⟨narrowsWildcards_iff le_rfl [[0, 0x61], [0, 0x5F], [0, 0x25]], rfl⟩

/-- `a` and the character U+5F00 in UTF-16: its first byte takes the place of a byte of `a`. -/
theorem not_narrowsWildcards_5F00 : ¬ NarrowsWildcards 2 [[0, 0x61], [0x5F, 0]] := by
  rintro ⟨data, hrun, rfl, -⟩
  revert hrun
  decide

/-- U+5F00 at the start of a pattern: the write index goes below zero. -/
example : updateValueByCharset [0x5F, 0] 1 = .error .undefined := rfl

/-- The pattern that a LIKE condition hands to the engine, for a constant of less than 65536
bytes. -/
theorem condFillString_like (env : FillEnv) {c : ConstItem} {noBackslash : Bool}
    {bytes : List UInt8} {csNumber mbminlen : Nat}
    (hvalue : c.value = .string bytes csNumber mbminlen) (hnull : c.nullValue = false)
    (hlen : bytes.length < 65536) {info : CondField}
    (h : condFillString env c noBackslash (some .like) = .ok info) :
    ∃ data, updateValueByCharset bytes (mbminlen - 1) = .ok data ∧
      info.fieldValue = some data ∧ info.fieldSize = data.length := by
  simp only [condFillString, hvalue, hnull, Bool.false_eq_true, if_false, Nat.mod_eq_of_lt hlen,
    List.take_length] at h
  obtain ⟨data, hdata, hinfo⟩ := result_bind_eq_ok.mp h
  cases hinfo
  exact ⟨data, hdata, rfl, rfl⟩

end CantianConnector.Pushdown
