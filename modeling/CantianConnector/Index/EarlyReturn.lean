import CantianConnector.Convert.RoundTrip
import CantianConnector.Index.Decode

/-!
# The early return of the decoders

`set_max_col_index_4_reading` computes from the read set how far a record has to be decoded, and
the two decoders of a prefetch stop there. In a row of the table the bound is the last column
that is read, and the decoder stops behind it. In a record of an index it is the column of the
last part that is read, and the decoder stops at that very column, since the parts come in the
order of the index.

When the statement writes, the bound is the last column of the table. For a row this means that
nothing is left out; a record of an index is decoded up to the part of that column, wherever it
stands.
-/

namespace CantianConnector.Index

open CantianConnector.Convert

/-! ## The bound -/

/-- `INVALID_MAX_UINT32`, also `UINT_MAX`. -/
def invalidMaxUint32 : Nat := 4294967295

/-- `bitmap_is_clear_all` of a set with `nBits` bits. -/
def bitmapIsClearAll (nBits : Nat) (set : Nat → Bool) : Bool := !(List.range nBits).any set

/-- The loop of `set_max_col_index_4_reading` that runs down to a column of the read set. -/
def lastSet (readSet : Nat → Bool) : Nat → Nat
  | 0 => 0
  | maxColIndex + 1 =>
    if readSet (maxColIndex + 1) then maxColIndex + 1 else lastSet readSet maxColIndex

/-- `set_max_col_index_4_reading`. `coveringIndex` holds the columns of the key parts of the
active index if only the index is read. -/
def setMaxColIndex4Reading (nBits : Nat) (readSet writeSet : Nat → Bool)
    (coveringIndex : Option (List Nat)) : Nat :=
  let maxColIndex := nBits - 1
  if !bitmapIsClearAll nBits writeSet then maxColIndex
  else if bitmapIsClearAll nBits readSet then invalidMaxUint32
  else
    match coveringIndex with
    | some columns => (columns.reverse.find? readSet).getD maxColIndex
    | none => lastSet readSet maxColIndex

theorem bitmapIsClearAll_iff {nBits : Nat} {set : Nat → Bool} :
    bitmapIsClearAll nBits set = true ↔ ∀ c < nBits, set c = false := by
  simp [bitmapIsClearAll]

theorem le_lastSet {readSet : Nat → Bool} {c n : Nat} (hc : readSet c = true) (hle : c ≤ n) :
    c ≤ lastSet readSet n := by
  induction n with
  | zero => exact hle
  | succ n ih =>
    rw [lastSet]
    split
    · exact hle
    · rename_i hn
      apply ih
      rcases Nat.lt_or_eq_of_le hle with hlt | rfl
      · omega
      · exact absurd hc hn

theorem lastSet_le (readSet : Nat → Bool) (n : Nat) : lastSet readSet n ≤ n := by
  induction n with
  | zero => exact le_rfl
  | succ n ih =>
    rw [lastSet]
    split
    · exact le_rfl
    · exact ih.trans (Nat.le_succ n)

/-! ## Rows of the table -/

/-- The columns stand in a record in their order. -/
def Ordered (table : Table) : Prop :=
  ∀ (i j : Nat) (f g : Field), i < j → table.fields[i]? = some f → table.fields[j]? = some g →
    f.isVirtualGcol = false → g.isVirtualGcol = false →
    f.offset + f.columnType.packLength ≤ g.offset

section

variable {readSet writeSet : Nat → Bool} {nBits : Nat}

/-- The bound for a row is behind every column that is read. -/
theorem le_setMaxColIndex {c : Nat} (hc : readSet c = true) (hlt : c < nBits) :
    c ≤ setMaxColIndex4Reading nBits readSet writeSet none := by
  unfold setMaxColIndex4Reading
  dsimp only
  split
  · omega
  · split
    · rename_i hclear
      rw [bitmapIsClearAll_iff.mp hclear c hlt] at hc
      cases hc
    · exact le_lastSet hc (by omega)

theorem setMaxColIndex_le (hn : nBits ≤ ctcMaxColumns) :
    setMaxColIndex4Reading nBits readSet writeSet none ≤ invalidMaxUint32 := by
  have hlast := lastSet_le readSet (nBits - 1)
  unfold ctcMaxColumns at hn
  unfold setMaxColIndex4Reading invalidMaxUint32
  dsimp only
  split
  · omega
  · split
    · exact le_rfl
    · omega

end

section

variable {σ : Type} {build : Build} {prims : ServerPrims} {store : LobStore σ} {ctx : ReadCtx}
  {table : Table} {lob : σ} {buf : Mem UInt8} {m m' : MysqlRecord}

theorem writeBytes_below {off a : Nat} (m : MysqlRecord) (bytes : List UInt8) (h : a < off) :
    m.writeBytes off bytes a = m a :=
  Mem.write_of_lt _ h

theorem copyStringToMysql_below {mysqlInfo : FieldCnvrtAux} {field : Field} {cantian : Mem UInt8}
    {fieldLen off : Nat}
    (h : copyStringToMysql build store mysqlInfo field lob cantian fieldLen m off = .ok m') :
    ∀ a < off, m' a = m a := by
  intro a ha
  unfold copyStringToMysql at h
  obtain ⟨m1, h1, h2⟩ := result_bind_eq_ok.mp h
  have hm1 : m1 a = m a := by
    split at h1
    · obtain ⟨_, -, h1⟩ := result_bind_eq_ok.mp h1
      have hptr : m.writePtr off (convertBlobToMysql store lob cantian) a = m a :=
        Mem.write_of_lt _ ha
      split at h1
      · split at h1
        · cases h1
          exact hptr
        · cases h1
      · cases h1
        rw [writeBytes_below _ _ ha, hptr]
    · cases h1
      exact writeBytes_below _ _ ha
  split at h2
  · split at h2
    · cases h2
      rw [writeBytes_below _ _ (by omega), hm1]
    · cases h2
      exact hm1
  · cases h2
    exact hm1

theorem copyColumnDataToMysql_below {mysqlInfo : FieldCnvrtAux} {field : Field}
    {cantian : Mem UInt8} {columnId fieldLen off : Nat}
    (h : copyColumnDataToMysql build prims store ctx mysqlInfo field columnId lob cantian fieldLen m
      off = .ok m') : ∀ a < off, m' a = m a := by
  intro a ha
  unfold copyColumnDataToMysql at h
  split at h
  · split at h
    · obtain ⟨image, -, h⟩ := result_bind_eq_ok.mp h
      cases h
      exact writeBytes_below _ _ ha
    · obtain ⟨image, -, h⟩ := result_bind_eq_ok.mp h
      cases h
      exact writeBytes_below _ _ ha
    · exact copyStringToMysql_below h a ha
    · obtain ⟨_, -, h⟩ := result_bind_eq_ok.mp h
      cases h
      exact Mem.write_of_lt _ ha
    · obtain ⟨_, -, h⟩ := result_bind_eq_ok.mp h
      cases h
      rfl
  · cases h
    rfl

theorem setNull_untouched (hlayout : table.Layout) {f g : Field} (hf : f ∈ table.fields)
    (hg : g ∈ table.fields) (hsep : f.Separate g) (h : m.setNull f = .ok m') :
    g.Untouched m m' := by
  cases hnb : f.nullBit with
  | none =>
    unfold MysqlRecord.setNull at h
    rw [hnb] at h
    cases h
  | some nb =>
    obtain ⟨m2, h2, -, hother⟩ := setNull_spec hlayout hnb hf m
    rw [h] at h2
    cases h2
    exact hother g hg hsep

/-- Decoding a column leaves the columns before it alone. -/
theorem convertField_untouched (hlayout : table.Layout) {f g : Field} (hf : f ∈ table.fields)
    (hg : g ∈ table.fields) (hsep : f.Separate g)
    (hbefore : g.offset + g.columnType.packLength ≤ f.offset) {columnId offset next : Nat}
    {bits : ColBits}
    (h : convertCantianFieldToMysqlField build prims store ctx f columnId bits lob buf offset m =
      .ok (m', next)) : g.Untouched m m' := by
  unfold convertCantianFieldToMysqlField at h
  split at h
  · obtain ⟨_, -, h⟩ := result_bind_eq_ok.mp h
    cases h
  · split at h
    · obtain ⟨m1, h1, h⟩ := result_bind_eq_ok.mp h
      cases h
      exact setNull_untouched hlayout hf hg hsep h1
    · unfold convertCantianValue at h
      obtain ⟨m1, h1, h⟩ := result_bind_eq_ok.mp h
      cases h
      have hbelow : ∀ a < f.offset, m' a = m a := by
        intro a ha
        rw [copyColumnDataToMysql_below h1 a (by omega), writeBytes_below _ _ ha]
      refine ⟨fun a _ ha => hbelow a (by omega), ?_⟩
      unfold MysqlRecord.isNull
      cases hnb : g.nullBit with
      | none => rfl
      | some nb =>
        have hnull := hlayout.nullBit g hg nb hnb
        have hdata := hlayout.data f hf
        dsimp only
        rw [hbelow nb.offset (by omega)]

/-- Both records hold the same in a column: the NULL bit and, unless it is set, the cells. -/
structure SameColumn (g : Field) (m m' : MysqlRecord) : Prop where
  isNull : m'.isNull g = m.isNull g
  cells : m.isNull g = false → ∀ a, g.offset ≤ a → a < g.offset + g.columnType.packLength →
    m' a = m a

theorem Untouched.sameColumn {g : Field} (h : g.Untouched m m') : SameColumn g m m' :=
  ⟨h.isNull, fun _ => h.cells⟩

theorem Untouched.refl (g : Field) (m : MysqlRecord) : g.Untouched m m := ⟨fun _ _ _ => rfl, rfl⟩

theorem Untouched.trans {g : Field} {a b c : MysqlRecord} (hab : g.Untouched a b)
    (hbc : g.Untouched b c) : g.Untouched a c :=
  ⟨fun i h1 h2 => (hbc.cells i h1 h2).trans (hab.cells i h1 h2), hbc.isNull.trans hab.isNull⟩

theorem decodeStep_untouched (hlayout : table.Layout) (hordered : Ordered table) {i c : Nat}
    (hi : i < c) {g : Field} (hg : table.fields[i]? = some g) (hstored : g.isVirtualGcol = false)
    {st st' : DecodeState}
    (h : decodeStep build prims store ctx table lob buf c st = .ok st') :
    g.Untouched st.record st'.record := by
  unfold decodeStep at h
  cases hf : table.fields[c]? with
  | none =>
    rw [hf] at h
    cases h
  | some f =>
    simp only [hf] at h
    cases hvirt : f.isVirtualGcol with
    | true =>
      rw [if_pos hvirt] at h
      cases h
      exact Untouched.refl g _
    | false =>
      rw [if_neg (by rw [hvirt]; exact Bool.false_ne_true)] at h
      obtain ⟨⟨m1, next⟩, h1, h⟩ := result_bind_eq_ok.mp h
      cases h
      exact convertField_untouched hlayout (List.mem_of_getElem? hf) (List.mem_of_getElem? hg)
        (hlayout.separate_of_ne hi.ne' hf hg) (hordered i c g f hi hg hf hstored hvirt) h1

/-- From column `c` on, the columns before it are not touched. -/
theorem decodeLoop_untouched (hlayout : table.Layout) (hordered : Ordered table) {i : Nat}
    {g : Field} (hg : table.fields[i]? = some g) (hstored : g.isVirtualGcol = false) (fuel : Nat)
    {c : Nat} (hi : i < c) {st st' : DecodeState}
    (h : decodeLoop build prims store ctx table lob buf fuel c st = .ok st') :
    g.Untouched st.record st'.record := by
  induction fuel generalizing c st with
  | zero =>
    cases h
    exact Untouched.refl g _
  | succ fuel ih =>
    rw [decodeLoop] at h
    split at h
    · cases h
      exact Untouched.refl g _
    · obtain ⟨st1, h1, h⟩ := result_bind_eq_ok.mp h
      exact Untouched.trans (decodeStep_untouched hlayout hordered hi hg hstored h1)
        (ih (Nat.lt_succ_of_lt hi) h)

/-- **The loop with an early return** does the same up to column `k`. -/
theorem decodeLoop_early (hlayout : table.Layout) (hordered : Ordered table) {k last : Nat}
    (hk : k ≤ last) (fuel : Nat) {c : Nat} {st st' : DecodeState}
    (h : decodeLoop build prims store { ctx with maxColIdx := last } table lob buf fuel c st =
      .ok st') :
    ∃ st1, decodeLoop build prims store { ctx with maxColIdx := k } table lob buf fuel c st =
        .ok st1 ∧
      ∀ i g, i ≤ k → table.fields[i]? = some g → g.isVirtualGcol = false →
        g.Untouched st1.record st'.record := by
  induction fuel generalizing c st with
  | zero =>
    cases h
    exact ⟨_, rfl, fun _ g _ _ _ => Untouched.refl g _⟩
  | succ fuel ih =>
    by_cases hstop : k < c
    · refine ⟨st, ?_, ?_⟩
      · rw [decodeLoop, if_pos hstop]
      · intro i g hi hg hstored
        exact decodeLoop_untouched hlayout hordered hg hstored (fuel + 1) (by omega) h
    · have hgo : ¬ last < c := by omega
      rw [decodeLoop, if_neg hgo] at h
      obtain ⟨st2, h2, h⟩ := result_bind_eq_ok.mp h
      obtain ⟨st1, h1, hagree⟩ := ih h
      refine ⟨st1, ?_, hagree⟩
      rw [decodeLoop, if_neg hstop]
      -- one round does not look at the bound
      have hround : decodeStep build prims store { ctx with maxColIdx := k } table lob buf c st =
          .ok st2 := h2
      rw [hround]
      exact h1

variable (build prims store ctx table) in
/-- Rows of the table decoded with the bound and without one agree in the columns that are
read. -/
def RowsAgree (writeSet : Nat → Bool) : Prop :=
  ∀ (lob : σ) (buf : Mem UInt8) (record m : MysqlRecord),
    cantianRecordToMysqlRecord build prims store { ctx with maxColIdx := invalidMaxUint32 } table
        lob buf record = .ok m →
    ∃ m', cantianRecordToMysqlRecord build prims store
        { ctx with
          maxColIdx := setMaxColIndex4Reading table.fields.length ctx.readSet writeSet none }
        table lob buf record = .ok m' ∧
      ∀ c f, table.fields[c]? = some f → f.isVirtualGcol = false → ctx.readSet c = true →
        SameColumn f m' m

theorem rowsAgree (hlayout : table.Layout) (hordered : Ordered table)
    (hcolumns : table.fields.length ≤ ctcMaxColumns) (writeSet : Nat → Bool) :
    RowsAgree build prims store ctx table writeSet := by
  intro lob buf record m h
  unfold cantianRecordToMysqlRecord at h ⊢
  obtain ⟨_, h1, h⟩ := result_bind_eq_ok.mp h
  obtain ⟨_, h2, h⟩ := result_bind_eq_ok.mp h
  obtain ⟨st, hloop, h⟩ := result_bind_eq_ok.mp h
  cases h
  obtain ⟨st1, hrun, hagree⟩ := decodeLoop_early hlayout hordered (setMaxColIndex_le hcolumns)
    table.fields.length hloop
  refine ⟨st1.record, ?_, ?_⟩
  · rw [h1, result_bind_ok, h2, result_bind_ok]
    dsimp only
    rw [hrun]
    rfl
  · intro c f hf hstored hread
    have hlt : c < table.fields.length := (List.getElem?_eq_some_iff.mp hf).1
    exact Untouched.sameColumn (hagree c f (le_setMaxColIndex hread hlt) hf hstored)

end

/-! ## Records of an index -/

/-- The parts of an index of the table. A part that is a prefix of its column lies within it. -/
structure IndexOf (table : Table) (parts : List IndexColumn) : Prop where
  columns : (parts.map IndexColumn.fieldIndex).Nodup
  field : ∀ p ∈ parts, ∃ f, table.fields[p.fieldIndex]? = some f ∧ p.field.offset = f.offset ∧
    p.field.nullBit = f.nullBit ∧ p.field.columnType.packLength ≤ f.columnType.packLength
  type : ∀ p ∈ parts, p.field.columnType.Valid
  inRow : ∀ p ∈ parts, varcharAsBlob p.field.columnType.rowPackLength = false
  packLength_pos : ∀ p ∈ parts, 0 < p.field.columnType.packLength

/-- The values of an index record fit into their columns, from part `keyId` on. -/
def IndexFits (tmpTable : Bool) (buf : Mem UInt8) : List IndexColumn → Nat → Nat → Prop
  | [], _, _ => True
  | part :: rest, keyId, offset =>
    match getAuxiliaryForFieldConvert part.field part.field.columnType.type with
    | none => True
    | some mysqlInfo =>
      let bits := ColBits.ofCode (rowGetColumnBits2 buf keyId)
      if bits = .null then IndexFits tmpTable buf rest (keyId + 1) offset
      else
        let col := ctcParseIndexColumn tmpTable mysqlInfo part.field bits buf offset
        (part.field.columnType.auxKind = .string →
            col.fieldLen ≤ part.field.columnType.rowPackLength) ∧
          IndexFits tmpTable buf rest (keyId + 1) (col.cantianOffset + col.alignedFieldLen)

/-- The cells that a value of part `p` may take are not those of part `q`. -/
def Apart (p q : IndexColumn) : Prop :=
  p.field.offset + decodedLength p.field.columnType ≤ q.field.offset ∨
    q.field.offset + q.field.columnType.packLength ≤ p.field.offset

theorem IndexOf.separate {table : Table} (hlayout : table.Layout) {parts : List IndexColumn}
    (hindex : IndexOf table parts) {p q : IndexColumn} (hp : p ∈ parts) (hq : q ∈ parts)
    (hne : p.fieldIndex ≠ q.fieldIndex) : p.field.Separate q.field := by
  obtain ⟨f, hf, hfo, hfn, hfl⟩ := hindex.field p hp
  obtain ⟨g, hg, hgo, hgn, hgl⟩ := hindex.field q hq
  obtain ⟨hcells, hnull⟩ := hlayout.separate_of_ne hne hf hg
  refine ⟨?_, ?_⟩
  · rw [hfo, hgo]
    omega
  · rw [hfn, hgn]
    exact hnull

/-- The parts of an index are laid out like the columns of a table. -/
theorem IndexOf.layout {table : Table} (hlayout : table.Layout) {parts : List IndexColumn}
    (hindex : IndexOf table parts) :
    (⟨parts.map IndexColumn.field, table.nullBytes⟩ : Table).Layout := by
  refine ⟨?_, ?_, ?_⟩
  · intro f hf
    obtain ⟨p, hp, rfl⟩ := List.mem_map.mp hf
    obtain ⟨g, hg, hgo, -⟩ := hindex.field p hp
    rw [hgo]
    exact hlayout.data g (List.mem_of_getElem? hg)
  · intro f hf nb hnb
    obtain ⟨p, hp, rfl⟩ := List.mem_map.mp hf
    obtain ⟨g, hg, -, hgn, -⟩ := hindex.field p hp
    rw [hgn] at hnb
    exact hlayout.nullBit g (List.mem_of_getElem? hg) nb hnb
  · rw [List.pairwise_map]
    have hcolumns := List.pairwise_map.mp hindex.columns
    apply hcolumns.imp_of_mem
    intro p q hp hq hne
    exact hindex.separate hlayout hp hq hne

section

variable {σ : Type} {build : Build} {prims : ServerPrims} {store : LobStore σ} {tmpTable : Bool}
  {ctx : ReadCtx} {lob : σ} {buf : Mem UInt8} {table : Table} {parts : List IndexColumn}

variable (ctx) in
/-- The same columns are copied with another read set. -/
def KeepsCopies (readSet : Nat → Bool) : Prop :=
  ∀ c, { ctx with readSet := readSet }.copies c = ctx.copies c

/-- **One round:** the NULL bit is set, or the value is written. -/
theorem indexDecodeStep_cases (hsized : PrimsSized prims) (hindex : IndexOf table parts)
    {part : IndexColumn} (hpart : part ∈ parts) (rest : List IndexColumn) (keyId : Nat)
    (readSet : Nat → Bool) (offset : Nat) :
    (ColBits.ofCode (rowGetColumnBits2 buf keyId) = .null ∧
        (∀ m, indexDecodeStep build prims store tmpTable ctx lob buf part keyId
          ⟨readSet, offset, m⟩ = (m.setNull part.field).map fun m' => ⟨readSet, offset, m'⟩) ∧
        (IndexFits tmpTable buf (part :: rest) keyId offset →
          IndexFits tmpTable buf rest (keyId + 1) offset)) ∨
      ∃ (r : Result ValueWrite) (fieldLen : Nat),
        (∀ m, indexDecodeStep build prims store tmpTable ctx lob buf part keyId
          ⟨readSet, offset, m⟩ = r.map fun out => out.apply part m) ∧
        ∀ out, r = .ok out → out.Bounded { ctx with readSet := readSet } part fieldLen ∧
          (IndexFits tmpTable buf (part :: rest) keyId offset →
            (part.field.columnType.auxKind = .string →
              fieldLen ≤ part.field.columnType.rowPackLength) ∧
            IndexFits tmpTable buf rest (keyId + 1) out.next) := by
  obtain ⟨ddl, haux⟩ := getAuxiliary_columnType part.field
  unfold indexDecodeStep
  rw [IndexFits, haux]
  dsimp only
  by_cases hbits : ColBits.ofCode (rowGetColumnBits2 buf keyId) = .null
  · refine Or.inl ⟨hbits, ?_, ?_⟩
    · intro m
      rw [if_pos hbits]
      cases m.setNull part.field <;> rfl
    · rw [if_pos hbits]
      exact id
  · have hinfo : IsAux ⟨part.field.columnType.auxType, part.field.columnType.auxBits,
        part.field.columnType.auxKind, ddl⟩ part.field.columnType := ⟨rfl, rfl, rfl⟩
    obtain ⟨r, hrun, hout⟩ := @convertIndexValue_write σ build prims store tmpTable ctx _ lob buf
      hsized part hinfo (hindex.type part hpart) (hindex.inRow part hpart)
      (ColBits.ofCode (rowGetColumnBits2 buf keyId)) readSet offset
    refine Or.inr ⟨r, (ctcParseIndexColumn tmpTable ⟨part.field.columnType.auxType,
      part.field.columnType.auxBits, part.field.columnType.auxKind, ddl⟩ part.field
      (ColBits.ofCode (rowGetColumnBits2 buf keyId)) buf offset).fieldLen, ?_, ?_⟩
    · intro m
      rw [if_neg hbits]
      exact hrun m
    · intro out h
      obtain ⟨hbounded, hnext⟩ := hout out h
      refine ⟨hbounded, ?_⟩
      rw [if_neg hbits, hnext]
      exact id

/-- What may be written for a value of a part. -/
structure PartCells (ctx : ReadCtx) (part : IndexColumn) (cells : List Cell) : Prop where
  skipped : ctx.copies part.fieldIndex = false →
    cells.length ≤ part.field.columnType.packLength
  within : cells.length ≤ decodedLength part.field.columnType
  bit : ctx.copies part.fieldIndex = true → ∀ n, part.field.columnType = .bit n →
    BitCells n cells

/-- **A round** sets the NULL bit or writes the value, and nothing else. -/
theorem indexDecodeStep_spec (hsized : PrimsSized prims) (hlayout : table.Layout)
    (hindex : IndexOf table parts) {part : IndexColumn} (hpart : part ∈ parts)
    {rest : List IndexColumn} {keyId : Nat} {st st' : IndexDecodeState}
    (hkeep : KeepsCopies ctx st.readSet)
    (hfits : IndexFits tmpTable buf (part :: rest) keyId st.cantianFieldOffset)
    (h : indexDecodeStep build prims store tmpTable ctx lob buf part keyId st = .ok st') :
    KeepsCopies ctx st'.readSet ∧
      IndexFits tmpTable buf rest (keyId + 1) st'.cantianFieldOffset ∧
      ((ColBits.ofCode (rowGetColumnBits2 buf keyId) = .null ∧
          ∀ q ∈ parts, part.fieldIndex ≠ q.fieldIndex →
            q.field.Untouched st.record st'.record) ∨
        ∃ cells, PartCells ctx part cells ∧
          st'.record = st.record.write part.field.offset cells) := by
  obtain ⟨readSet, offset, m⟩ := st
  rcases indexDecodeStep_cases hsized hindex hpart rest keyId readSet offset with
    ⟨hbits, hrun, hrest⟩ | ⟨r, fieldLen, hrun, hout⟩
  · rw [hrun m] at h
    cases hset : m.setNull part.field with
    | error e =>
      rw [hset] at h
      cases h
    | ok m' =>
      rw [hset] at h
      cases h
      refine ⟨hkeep, hrest hfits, Or.inl ⟨hbits, ?_⟩⟩
      intro q hq hne
      exact setNull_untouched (hindex.layout hlayout) (List.mem_map_of_mem hpart)
        (List.mem_map_of_mem hq) (hindex.separate hlayout hpart hq hne) hset
  · rw [hrun m] at h
    cases hr : r with
    | error e =>
      rw [hr] at h
      cases h
    | ok out =>
      rw [hr] at h
      cases h
      obtain ⟨hbounded, hnext⟩ := hout out hr
      obtain ⟨hlen, hrest⟩ := hnext hfits
      have hsame : { ctx with readSet := readSet }.copies part.fieldIndex =
          ctx.copies part.fieldIndex := hkeep part.fieldIndex
      refine ⟨fun c => (hbounded.copies c).trans (hkeep c), hrest, Or.inr ⟨out.cells, ?_, rfl⟩⟩
      exact ⟨fun h => hbounded.skipped (hsame.trans h), hbounded.within hlen,
        fun h => hbounded.bit (hsame.trans h)⟩

theorem isNull_write (hlayout : table.Layout) (hindex : IndexOf table parts) {p q : IndexColumn}
    (hp : p ∈ parts) (hq : q ∈ parts) (cells : List Cell) (m : MysqlRecord) :
    MysqlRecord.isNull (m.write p.field.offset cells) q.field = m.isNull q.field := by
  have hparts := hindex.layout hlayout
  have hdata := hparts.data p.field (List.mem_map_of_mem hp)
  dsimp only at hdata
  unfold MysqlRecord.isNull
  cases hnb : q.field.nullBit with
  | none => rfl
  | some nb =>
    have hnull := hparts.nullBit q.field (List.mem_map_of_mem hq) nb hnb
    dsimp only at hnull ⊢
    rw [Mem.write_of_lt cells (by omega)]

/-- A round leaves alone the parts that its value does not reach into. -/
theorem indexDecodeStep_untouched (hsized : PrimsSized prims) (hlayout : table.Layout)
    (hindex : IndexOf table parts) {part : IndexColumn} (hpart : part ∈ parts)
    {rest : List IndexColumn} {keyId : Nat} {st st' : IndexDecodeState}
    (hkeep : KeepsCopies ctx st.readSet)
    (hfits : IndexFits tmpTable buf (part :: rest) keyId st.cantianFieldOffset)
    (h : indexDecodeStep build prims store tmpTable ctx lob buf part keyId st = .ok st')
    {q : IndexColumn} (hq : q ∈ parts) (hne : part.fieldIndex ≠ q.fieldIndex)
    (happart : ctx.copies part.fieldIndex = true → Apart part q) :
    q.field.Untouched st.record st'.record := by
  obtain ⟨-, -, ⟨-, hother⟩ | ⟨cells, hcells, hrecord⟩⟩ :=
    indexDecodeStep_spec hsized hlayout hindex hpart hkeep hfits h
  · exact hother q hq hne
  · have hsep := (hindex.separate hlayout hpart hq hne).cells
    have hoff : part.field.offset + cells.length ≤ q.field.offset ∨
        q.field.offset + q.field.columnType.packLength ≤ part.field.offset := by
      cases hcopies : ctx.copies part.fieldIndex with
      | true =>
        have hlen := hcells.within
        have happart := happart hcopies
        unfold Apart at happart
        omega
      | false =>
        have hlen := hcells.skipped hcopies
        omega
    rw [hrecord]
    exact ⟨fun a _ _ => Mem.write_outside (by omega),
      isNull_write hlayout hindex hpart hq cells st.record⟩

/-- The rounds of a list of parts leave alone the parts that their values do not reach into. -/
theorem indexDecodeLoop_untouched (hsized : PrimsSized prims) (hlayout : table.Layout)
    (hindex : IndexOf table parts) {rest : List IndexColumn} (hrest : ∀ p ∈ rest, p ∈ parts)
    {q : IndexColumn} (hq : q ∈ parts)
    (happart : ∀ p ∈ rest, p.fieldIndex ≠ q.fieldIndex ∧
      (ctx.copies p.fieldIndex = true → Apart p q)) {keyId : Nat} {st st' : IndexDecodeState}
    (hkeep : KeepsCopies ctx st.readSet)
    (hfits : IndexFits tmpTable buf rest keyId st.cantianFieldOffset)
    (h : indexDecodeLoop build prims store tmpTable ctx lob buf rest keyId st = .ok st') :
    q.field.Untouched st.record st'.record := by
  induction rest generalizing keyId st with
  | nil =>
    cases h
    exact Untouched.refl q.field _
  | cons p rest ih =>
    obtain ⟨hp, hrest⟩ := List.forall_mem_cons.mp hrest
    obtain ⟨⟨hne, hapart⟩, happart⟩ := List.forall_mem_cons.mp happart
    rw [indexDecodeLoop] at h
    obtain ⟨st1, h1, h⟩ := result_bind_eq_ok.mp h
    obtain ⟨hkeep1, hfits1, -⟩ := indexDecodeStep_spec hsized hlayout hindex hp hkeep hfits h1
    have hstep := indexDecodeStep_untouched hsized hlayout hindex hp hkeep hfits h1 hq hne hapart
    split at h
    · cases h
      exact hstep
    · apply Untouched.trans hstep
      apply ih hrest happart hkeep1 hfits1 h

/-- **The loop with an early return** is the loop over the parts up to the bound, and the loop
without one goes on from there. -/
theorem indexDecodeLoop_early (hsized : PrimsSized prims) (hlayout : table.Layout)
    (hindex : IndexOf table parts) {k last : Nat} {rest : List IndexColumn}
    (hrest : ∀ p ∈ rest, p ∈ parts) (hlast : ∀ p ∈ rest, p.fieldIndex ≠ last) {keyId : Nat}
    {st st' : IndexDecodeState} (hkeep : KeepsCopies ctx st.readSet)
    (hfits : IndexFits tmpTable buf rest keyId st.cantianFieldOffset)
    (h : indexDecodeLoop build prims store tmpTable { ctx with maxColIdx := last } lob buf rest
      keyId st = .ok st') :
    ∃ st1 pre post, rest = pre ++ post ∧
      indexDecodeLoop build prims store tmpTable { ctx with maxColIdx := k } lob buf rest keyId
        st = .ok st1 ∧
      indexDecodeLoop build prims store tmpTable { ctx with maxColIdx := last } lob buf post
        (keyId + pre.length) st1 = .ok st' ∧
      KeepsCopies ctx st1.readSet ∧
      IndexFits tmpTable buf post (keyId + pre.length) st1.cantianFieldOffset ∧
      (post = [] ∨ ∃ as p, pre = as ++ [p] ∧ p.fieldIndex = k) := by
  induction rest generalizing keyId st with
  | nil =>
    cases h
    exact ⟨_, [], [], rfl, rfl, rfl, hkeep, trivial, Or.inl rfl⟩
  | cons p rest ih =>
    obtain ⟨hp, hrest⟩ := List.forall_mem_cons.mp hrest
    obtain ⟨hpl, hlast⟩ := List.forall_mem_cons.mp hlast
    rw [indexDecodeLoop] at h
    obtain ⟨st1, h1, h⟩ := result_bind_eq_ok.mp h
    rw [if_neg hpl] at h
    -- one round does not look at the bound
    have hround : indexDecodeStep build prims store tmpTable { ctx with maxColIdx := k } lob buf p
        keyId st = .ok st1 := h1
    obtain ⟨hkeep1, hfits1, -⟩ := indexDecodeStep_spec hsized hlayout hindex hp hkeep hfits
      (show indexDecodeStep build prims store tmpTable ctx lob buf p keyId st = .ok st1 from h1)
    by_cases hstop : p.fieldIndex = k
    · refine ⟨st1, [p], rest, rfl, ?_, h, hkeep1, hfits1, Or.inr ⟨[], p, rfl, hstop⟩⟩
      rw [indexDecodeLoop, hround, result_bind_ok, if_pos hstop]
      rfl
    · obtain ⟨st2, pre, post, rfl, hearly, hgo, hkeep2, hfits2, hpost⟩ :=
        ih hrest hlast hkeep1 hfits1 h
      have hlen : keyId + (p :: pre).length = keyId + 1 + pre.length := by
        rw [List.length_cons]
        omega
      refine ⟨st2, p :: pre, post, rfl, ?_, hlen ▸ hgo, hkeep2, hlen ▸ hfits2, ?_⟩
      · rw [indexDecodeLoop, hround, result_bind_ok, if_neg hstop]
        exact hearly
      · rcases hpost with hnil | ⟨as, r, rfl, hr⟩
        · exact Or.inl hnil
        · exact Or.inr ⟨p :: as, r, rfl, hr⟩

variable (build prims store tmpTable ctx table parts) in
/-- Records of an index decoded with the bound and without one agree in the parts that are
read. -/
def IndexAgree (writeSet : Nat → Bool) : Prop :=
  ∀ (lob : σ) (buf : Mem UInt8) (record m : MysqlRecord),
    IndexFits tmpTable buf parts 0 (rowHeadSize + colBitmapExSize (headColumnCount buf)) →
    cantianIndexRecordToMysqlRecord build prims store tmpTable
        { ctx with maxColIdx := invalidMaxUint32 } lob buf table.nullBytes parts record = .ok m →
    ∃ m', cantianIndexRecordToMysqlRecord build prims store tmpTable
        { ctx with
          maxColIdx := setMaxColIndex4Reading table.fields.length ctx.readSet writeSet
            (some (parts.map IndexColumn.fieldIndex)) }
        lob buf table.nullBytes parts record = .ok m' ∧
      ∀ p ∈ parts, ctx.readSet p.fieldIndex = true → SameColumn p.field m' m

/-- No part behind the one of column `k` is read. -/
def NoneReadBehind (readSet : Nat → Bool) (parts : List IndexColumn) (k : Nat) : Prop :=
  ∀ pre p post, parts = pre ++ p :: post → p.fieldIndex = k →
    ∀ q ∈ post, readSet q.fieldIndex = false

variable (ctx) in
/-- The values of the parts behind the one of column `k` do not reach into a part that is
read. -/
def NoneReachesBack (parts : List IndexColumn) (k : Nat) : Prop :=
  ∀ pre p post, parts = pre ++ p :: post → p.fieldIndex = k →
    ∀ q ∈ post, ctx.copies q.fieldIndex = true →
      ∀ r ∈ pre ++ [p], ctx.readSet r.fieldIndex = true → Apart q r

theorem keepsCopies_refl : KeepsCopies ctx ctx.readSet := fun _ => rfl

/-- Stopping at column `k` changes no part that is read. -/
theorem indexDecode_stop (hsized : PrimsSized prims) (hlayout : table.Layout)
    (hindex : IndexOf table parts) {k last : Nat} (hlast : ∀ p ∈ parts, p.fieldIndex ≠ last)
    (hnone : NoneReadBehind ctx.readSet parts k) (hback : NoneReachesBack ctx parts k)
    {record m : MysqlRecord}
    (hfits : IndexFits tmpTable buf parts 0
      (rowHeadSize + colBitmapExSize (headColumnCount buf)))
    (h : cantianIndexRecordToMysqlRecord build prims store tmpTable
      { ctx with maxColIdx := last } lob buf table.nullBytes parts record = .ok m) :
    ∃ m', cantianIndexRecordToMysqlRecord build prims store tmpTable
        { ctx with maxColIdx := k } lob buf table.nullBytes parts record = .ok m' ∧
      ∀ p ∈ parts, ctx.readSet p.fieldIndex = true → p.field.Untouched m' m := by
  unfold cantianIndexRecordToMysqlRecord at h ⊢
  obtain ⟨st, hrun, h⟩ := result_bind_eq_ok.mp h
  cases h
  obtain ⟨st1, pre, post, hparts, hearly, hgo, hkeep1, hfits1, hpost⟩ :=
    indexDecodeLoop_early (k := k) hsized hlayout hindex (fun _ hp => hp) hlast keepsCopies_refl
      hfits hrun
  refine ⟨st1.record, ?_, ?_⟩
  · dsimp only at hearly ⊢
    rw [hearly]
    rfl
  · intro q hq hread
    rcases hpost with rfl | ⟨as, p, rfl, hp⟩
    · cases hgo
      exact Untouched.refl q.field _
    · have hsplit : parts = as ++ p :: post := by
        rw [hparts, List.append_assoc]
        rfl
      have hunread := hnone as p post hsplit hp
      have hbefore : q ∈ as ++ [p] := by
        rw [hparts] at hq
        rcases List.mem_append.mp hq with hpre | hpost
        · exact hpre
        · rw [hunread q hpost] at hread
          cases hread
      have hkeep : KeepsCopies { ctx with maxColIdx := last } st1.readSet := hkeep1
      refine indexDecodeLoop_untouched hsized hlayout hindex ?_ hq ?_ hkeep hfits1 hgo
      · intro r hr
        rw [hparts]
        exact List.mem_append_right _ hr
      · intro r hr
        refine ⟨?_, fun hcopies => hback as p post hsplit hp r hr hcopies q hbefore hread⟩
        intro heq
        rw [← heq, hunread r hr] at hread
        cases hread

/-- Behind the last column that is read no column is read. -/
theorem noneReadBehind_find {readSet : Nat → Bool} {c : Nat}
    (hcolumns : (parts.map IndexColumn.fieldIndex).Nodup)
    (h : (parts.map IndexColumn.fieldIndex).reverse.find? readSet = some c) :
    NoneReadBehind readSet parts c := by
  rintro pre p post rfl rfl q hq
  rw [List.map_append, List.map_cons] at hcolumns
  have hbehind : p.fieldIndex ∉ post.map IndexColumn.fieldIndex :=
    (List.nodup_cons.mp hcolumns.of_append_right).1
  rw [List.map_append, List.map_cons, List.reverse_append, List.reverse_cons,
    List.append_assoc, List.find?_append] at h
  cases hfind : (post.map IndexColumn.fieldIndex).reverse.find? readSet with
  | none =>
    have hnone := List.find?_eq_none.mp hfind q.fieldIndex
      (List.mem_reverse.mpr (List.mem_map_of_mem hq))
    exact Bool.eq_false_of_not_eq_true hnone
  | some c =>
    rw [hfind] at h
    cases h
    exact absurd (List.mem_reverse.mp (List.mem_of_find?_eq_some hfind)) hbehind

/-- If something is written, no part behind the one of the last column of the table is read. -/
def LastColumnReadLast (nBits : Nat) (readSet writeSet : Nat → Bool) (parts : List IndexColumn) :
    Prop :=
  (∃ c < nBits, writeSet c = true) → NoneReadBehind readSet parts (nBits - 1)

variable (ctx) in
/-- The value of part `q` reaches into a part `p` that is read, and `q` stands behind the last
part that is read, and behind the part of the last column of the table if something is written. -/
structure Overrun (nBits : Nat) (writeSet : Nat → Bool) (parts pre : List IndexColumn)
    (q : IndexColumn) (post : List IndexColumn) (p : IndexColumn) : Prop where
  split : parts = pre ++ q :: post
  behindLast : (∃ c < nBits, writeSet c = true) → ∃ s ∈ pre, s.fieldIndex = nBits - 1
  unread : ∀ r ∈ q :: post, ctx.readSet r.fieldIndex = false
  copies : ctx.copies q.fieldIndex = true
  mem : p ∈ pre
  read : ctx.readSet p.fieldIndex = true
  reaches : ¬ Apart q p

variable (ctx) in
/-- No value that is left out reaches into a part that is read. -/
def NoOverrun (nBits : Nat) (writeSet : Nat → Bool) (parts : List IndexColumn) : Prop :=
  ∀ pre q post p, ¬ Overrun ctx nBits writeSet parts pre q post p

/-- Without a BIT of 3, 5, 6 or 7 bytes no value reaches into another part. -/
theorem noOverrun_of_decodedLength (hlayout : table.Layout) (hindex : IndexOf table parts)
    (hlength : ∀ p ∈ parts,
      decodedLength p.field.columnType = p.field.columnType.packLength)
    (nBits : Nat) (writeSet : Nat → Bool) : NoOverrun ctx nBits writeSet parts := by
  intro pre q post p hover
  have hq : q ∈ parts := by
    rw [hover.split]
    exact List.mem_append_right pre List.mem_cons_self
  have hp : p ∈ parts := by
    rw [hover.split]
    exact List.mem_append_left _ hover.mem
  have hne : q.fieldIndex ≠ p.fieldIndex := by
    intro heq
    have hunread := hover.unread q List.mem_cons_self
    rw [heq, hover.read] at hunread
    cases hunread
  apply hover.reaches
  unfold Apart
  rw [hlength q hq]
  exact (hindex.separate hlayout hq hp hne).cells

theorem noneReachesBack_of_noOverrun {nBits k : Nat} {writeSet : Nat → Bool}
    (hk : (∃ c < nBits, writeSet c = true) → k = nBits - 1)
    (hnone : NoneReadBehind ctx.readSet parts k) (h : NoOverrun ctx nBits writeSet parts) :
    NoneReachesBack ctx parts k := by
  rintro pre p post hparts hp q hq hcopies r hr hread
  obtain ⟨as, bs, rfl⟩ := List.append_of_mem hq
  have hunread := hnone pre p _ hparts hp
  by_contra happart
  refine h (pre ++ p :: as) q bs r ⟨?_, ?_, ?_, hcopies, ?_, hread, happart⟩
  · rw [hparts, List.append_assoc]
    rfl
  · intro hwritten
    exact ⟨p, List.mem_append_right _ List.mem_cons_self, hp.trans (hk hwritten)⟩
  · intro s hs
    exact hunread s (List.mem_append_right _ hs)
  · rcases List.mem_append.mp hr with hr | hr
    · exact List.mem_append_left _ hr
    · rw [List.mem_singleton.mp hr]
      exact List.mem_append_right _ List.mem_cons_self

theorem bitmapIsClearAll_not_iff {nBits : Nat} {set : Nat → Bool} :
    (!bitmapIsClearAll nBits set) = true ↔ ∃ c < nBits, set c = true := by
  simp [bitmapIsClearAll]

/-- The bound of an index is a column of the index that is read and behind which none is, or the
last column of the table. -/
theorem noneReadBehind_setMaxColIndex {writeSet : Nat → Bool}
    (hcolumns : (parts.map IndexColumn.fieldIndex).Nodup) {nBits : Nat}
    (hbits : ∀ p ∈ parts, p.fieldIndex < nBits)
    (hlast : LastColumnReadLast nBits ctx.readSet writeSet parts) :
    let k := setMaxColIndex4Reading nBits ctx.readSet writeSet
      (some (parts.map IndexColumn.fieldIndex))
    ((∃ c < nBits, writeSet c = true) → k = nBits - 1) ∧ NoneReadBehind ctx.readSet parts k := by
  intro k
  by_cases hwritten : (!bitmapIsClearAll nBits writeSet) = true
  · have hk : k = nBits - 1 := if_pos hwritten
    rw [hk]
    exact ⟨fun _ => rfl, hlast (bitmapIsClearAll_not_iff.mp hwritten)⟩
  · refine ⟨fun h => absurd (bitmapIsClearAll_not_iff.mpr h) hwritten, ?_⟩
    have hunread : (∀ p ∈ parts, ctx.readSet p.fieldIndex = false) →
        NoneReadBehind ctx.readSet parts k := by
      rintro hall pre p post rfl - q hq
      exact hall q (List.mem_append_right _ (List.mem_cons_of_mem p hq))
    by_cases hclear : bitmapIsClearAll nBits ctx.readSet = true
    · exact hunread fun p hp => bitmapIsClearAll_iff.mp hclear p.fieldIndex (hbits p hp)
    · have hk : k = ((parts.map IndexColumn.fieldIndex).reverse.find? ctx.readSet).getD
          (nBits - 1) := by
        simp only [k, setMaxColIndex4Reading]
        rw [if_neg hwritten, if_neg hclear]
      cases hfind : (parts.map IndexColumn.fieldIndex).reverse.find? ctx.readSet with
      | none =>
        apply hunread
        intro p hp
        exact Bool.eq_false_of_not_eq_true (List.find?_eq_none.mp hfind p.fieldIndex
          (List.mem_reverse.mpr (List.mem_map_of_mem hp)))
      | some c =>
        rw [hk, hfind]
        exact noneReadBehind_find hcolumns hfind

theorem IndexOf.fieldIndex_lt (hindex : IndexOf table parts) {p : IndexColumn} (hp : p ∈ parts) :
    p.fieldIndex < table.fields.length := by
  obtain ⟨f, hf, -⟩ := hindex.field p hp
  exact (List.getElem?_eq_some_iff.mp hf).1

/-- No column has the number that stands for no bound. -/
theorem IndexOf.ne_invalidMaxUint32 (hindex : IndexOf table parts)
    (hcolumns : table.fields.length ≤ ctcMaxColumns) {p : IndexColumn} (hp : p ∈ parts) :
    p.fieldIndex ≠ invalidMaxUint32 := by
  have hlt := hindex.fieldIndex_lt hp
  unfold ctcMaxColumns at hcolumns
  unfold invalidMaxUint32
  omega

/-- **Records of an index agree** if nothing that is read stands behind the bound, and nothing
behind it reaches back. -/
theorem indexAgree (hsized : PrimsSized prims) (hlayout : table.Layout)
    (hcolumns : table.fields.length ≤ ctcMaxColumns) (hindex : IndexOf table parts)
    {writeSet : Nat → Bool}
    (hlast : LastColumnReadLast table.fields.length ctx.readSet writeSet parts)
    (hover : NoOverrun ctx table.fields.length writeSet parts) :
    IndexAgree build prims store tmpTable ctx table parts writeSet := by
  intro lob buf record m hfits h
  obtain ⟨hk, hnone⟩ := noneReadBehind_setMaxColIndex hindex.columns
    (fun p hp => hindex.fieldIndex_lt hp) hlast
  obtain ⟨m', hrun, hsame⟩ := indexDecode_stop hsized hlayout hindex
    (fun p hp => hindex.ne_invalidMaxUint32 hcolumns hp) hnone
    (noneReachesBack_of_noOverrun hk hnone hover) hfits h
  exact ⟨m', hrun, fun p hp hread => Untouched.sameColumn (hsame p hp hread)⟩

/-- Only a BIT is stored with more bytes than it has. -/
theorem exists_bit_of_lt {c : ColumnType} (h : c.packLength < decodedLength c) :
    ∃ n, c = .bit n := by
  cases c with
  | bit n => exact ⟨n, rfl⟩
  | _ => exact absurd h (Nat.lt_irrefl _)

/-- Behind the bytes of a part only zeros are written. -/
theorem PartCells.tail {part : IndexColumn} {cells : List Cell} (h : PartCells ctx part cells)
    {i : Nat} (hi : part.field.columnType.packLength ≤ i) {c : Cell} (hc : cells[i]? = some c) :
    c = .byte 0 := by
  have hlt : i < cells.length := (List.getElem?_eq_some_iff.mp hc).1
  cases hcopies : ctx.copies part.fieldIndex with
  | false =>
    have hlen := h.skipped hcopies
    omega
  | true =>
    have hlen := h.within
    obtain ⟨n, hbit⟩ := exists_bit_of_lt (hi.trans_lt (hlt.trans_le hlen))
    obtain ⟨bs, hbs, rfl⟩ := h.bit hcopies n hbit
    rw [hbit] at hi
    have hbytes : bs.length ≤ i := hbs.trans_le hi
    rw [List.getElem?_append_right hbytes] at hc
    exact List.eq_of_mem_replicate (List.mem_of_getElem? hc)

/-- A round of another part leaves the first cell of part `q`, or makes it zero; it does so if
its value reaches into the part. -/
theorem indexDecodeStep_first (hsized : PrimsSized prims) (hlayout : table.Layout)
    (hindex : IndexOf table parts) {part : IndexColumn} (hpart : part ∈ parts)
    {rest : List IndexColumn} {keyId : Nat} {st st' : IndexDecodeState}
    (hkeep : KeepsCopies ctx st.readSet)
    (hfits : IndexFits tmpTable buf (part :: rest) keyId st.cantianFieldOffset)
    (h : indexDecodeStep build prims store tmpTable ctx lob buf part keyId st = .ok st')
    {q : IndexColumn} (hq : q ∈ parts) (hne : part.fieldIndex ≠ q.fieldIndex) :
    st'.record.isNull q.field = st.record.isNull q.field ∧
      (st'.record q.field.offset = st.record q.field.offset ∨
        st'.record q.field.offset = .byte 0) ∧
      (ColBits.ofCode (rowGetColumnBits2 buf keyId) ≠ .null →
        ctx.copies part.fieldIndex = true → ¬ Apart part q →
        st'.record q.field.offset = .byte 0) := by
  have hpos := hindex.packLength_pos q hq
  obtain ⟨-, -, ⟨hnull, hother⟩ | ⟨cells, hcells, hrecord⟩⟩ :=
    indexDecodeStep_spec hsized hlayout hindex hpart hkeep hfits h
  · obtain ⟨hsame, hbit⟩ := hother q hq hne
    exact ⟨hbit, Or.inl (hsame q.field.offset le_rfl (by omega)), fun h => absurd hnull h⟩
  · have hsep := (hindex.separate hlayout hpart hq hne).cells
    rw [hrecord]
    refine ⟨isNull_write hlayout hindex hpart hq cells st.record, ?_, ?_⟩
    · by_cases hbefore : q.field.offset < part.field.offset
      · exact Or.inl (Mem.write_of_lt cells hbefore)
      · have hle : part.field.offset ≤ q.field.offset := Nat.le_of_not_lt hbefore
        unfold Mem.write
        rw [if_pos hle]
        cases hc : cells[q.field.offset - part.field.offset]? with
        | none => exact Or.inl rfl
        | some c => exact Or.inr (hcells.tail (by omega) hc)
    · intro _ hcopies hreach
      unfold Apart at hreach
      obtain ⟨n, hbit⟩ := exists_bit_of_lt (c := part.field.columnType) (by omega)
      obtain ⟨bs, hbs, rfl⟩ := hcells.bit hcopies n hbit
      rw [hbit] at hsep hreach
      have hpack : (ColumnType.bit n).packLength = n := rfl
      have hoff : q.field.offset =
          part.field.offset + (q.field.offset - part.field.offset) := by omega
      rw [hoff]
      apply Mem.write_inside
      rw [List.getElem?_append_right (by omega), List.getElem?_replicate, if_pos (by omega)]

/-- A zero at the start of part `q` stays in the rounds of other parts. -/
theorem indexDecodeLoop_first (hsized : PrimsSized prims) (hlayout : table.Layout)
    (hindex : IndexOf table parts) {rest : List IndexColumn} (hrest : ∀ p ∈ rest, p ∈ parts)
    {q : IndexColumn} (hq : q ∈ parts) (hne : ∀ p ∈ rest, p.fieldIndex ≠ q.fieldIndex)
    {keyId : Nat} {st st' : IndexDecodeState} (hkeep : KeepsCopies ctx st.readSet)
    (hfits : IndexFits tmpTable buf rest keyId st.cantianFieldOffset)
    (h : indexDecodeLoop build prims store tmpTable ctx lob buf rest keyId st = .ok st')
    (hzero : st.record q.field.offset = .byte 0) :
    st'.record.isNull q.field = st.record.isNull q.field ∧
      st'.record q.field.offset = .byte 0 := by
  induction rest generalizing keyId st with
  | nil =>
    cases h
    exact ⟨rfl, hzero⟩
  | cons p rest ih =>
    obtain ⟨hp, hrest⟩ := List.forall_mem_cons.mp hrest
    obtain ⟨hpq, hne⟩ := List.forall_mem_cons.mp hne
    rw [indexDecodeLoop] at h
    obtain ⟨st1, h1, h⟩ := result_bind_eq_ok.mp h
    obtain ⟨hkeep1, hfits1, -⟩ := indexDecodeStep_spec hsized hlayout hindex hp hkeep hfits h1
    obtain ⟨hnull, hcell, -⟩ := indexDecodeStep_first hsized hlayout hindex hp hkeep hfits h1 hq hpq
    have hzero1 : st1.record q.field.offset = .byte 0 := by
      rcases hcell with hcell | hcell
      · rw [hcell, hzero]
      · exact hcell
    split at h
    · cases h
      exact ⟨hnull, hzero1⟩
    · obtain ⟨hnull2, hcell2⟩ := ih hrest hne hkeep1 hfits1 h hzero1
      exact ⟨hnull2.trans hnull, hcell2⟩

/-- Behind the part of the bound the loop does nothing. -/
theorem indexDecodeLoop_stop {pre post : List IndexColumn} {s : IndexColumn}
    (hs : s.fieldIndex = ctx.maxColIdx) (keyId : Nat) (st : IndexDecodeState) :
    indexDecodeLoop build prims store tmpTable ctx lob buf (pre ++ s :: post) keyId st =
      indexDecodeLoop build prims store tmpTable ctx lob buf (pre ++ [s]) keyId st := by
  induction pre generalizing keyId st with
  | nil =>
    simp only [List.nil_append, indexDecodeLoop, if_pos hs]
  | cons p pre ih =>
    simp only [List.cons_append, indexDecodeLoop, ih]

/-- The loop without an early return gets to the parts behind `pre`. -/
theorem indexDecodeLoop_append (hsized : PrimsSized prims) (hlayout : table.Layout)
    (hindex : IndexOf table parts) {pre post : List IndexColumn} (hpre : ∀ p ∈ pre, p ∈ parts)
    (hlast : ∀ p ∈ pre, p.fieldIndex ≠ ctx.maxColIdx) {keyId : Nat}
    {st st' : IndexDecodeState} (hkeep : KeepsCopies ctx st.readSet)
    (hfits : IndexFits tmpTable buf (pre ++ post) keyId st.cantianFieldOffset)
    (h : indexDecodeLoop build prims store tmpTable ctx lob buf (pre ++ post) keyId st =
      .ok st') :
    ∃ st1, KeepsCopies ctx st1.readSet ∧
      IndexFits tmpTable buf post (keyId + pre.length) st1.cantianFieldOffset ∧
      indexDecodeLoop build prims store tmpTable ctx lob buf post (keyId + pre.length) st1 =
        .ok st' := by
  induction pre generalizing keyId st with
  | nil => exact ⟨st, hkeep, hfits, h⟩
  | cons p pre ih =>
    obtain ⟨hp, hpre⟩ := List.forall_mem_cons.mp hpre
    obtain ⟨hpl, hlast⟩ := List.forall_mem_cons.mp hlast
    rw [List.cons_append, indexDecodeLoop] at h
    obtain ⟨st1, h1, h⟩ := result_bind_eq_ok.mp h
    rw [if_neg hpl] at h
    obtain ⟨hkeep1, hfits1, -⟩ := indexDecodeStep_spec hsized hlayout hindex hp hkeep hfits h1
    have hlen : keyId + (p :: pre).length = keyId + 1 + pre.length := by
      rw [List.length_cons]
      omega
    rw [hlen]
    apply ih hpre hlast hkeep1 hfits1 h

theorem IndexFits.left {as bs : List IndexColumn} {keyId offset : Nat}
    (h : IndexFits tmpTable buf (as ++ bs) keyId offset) :
    IndexFits tmpTable buf as keyId offset := by
  induction as generalizing keyId offset with
  | nil => trivial
  | cons p as ih =>
    rw [List.cons_append, IndexFits] at h
    rw [IndexFits]
    cases haux : getAuxiliaryForFieldConvert p.field p.field.columnType.type with
    | none => trivial
    | some mysqlInfo =>
      rw [haux] at h
      dsimp only at h ⊢
      split
      · rename_i hnull
        rw [if_pos hnull] at h
        exact ih h
      · rename_i hnull
        rw [if_neg hnull] at h
        exact ⟨h.1, ih h.2⟩

/-- A record before anything is decoded into it. -/
def zeroRecord : MysqlRecord := fun _ => .byte 0

theorem zeroRecord_writeBytes (n : Nat) :
    zeroRecord.writeBytes 0 (List.replicate n 0) = zeroRecord := by
  funext a
  unfold MysqlRecord.writeBytes Mem.write
  rw [List.map_replicate, List.getElem?_replicate]
  split
  · split <;> rfl
  · rfl

theorem isNull_zeroRecord (f : Field) : zeroRecord.isNull f = false := by
  unfold MysqlRecord.isNull
  cases f.nullBit with
  | none => rfl
  | some nb => simp [zeroRecord, Cell.toByte]

variable (build prims store tmpTable ctx table parts) in
/-- Records of the index by which the parts can be told apart: each part that is read is NULL in
one or starts with a byte other than 0, and where the value of a part that is left out reaches
into a part that is read, there is one with both values. -/
structure Telling (writeSet : Nat → Bool) : Prop where
  read : ∀ q ∈ parts, ctx.readSet q.fieldIndex = true →
    ∃ (lob : σ) (buf : Mem UInt8) (m : MysqlRecord),
    IndexFits tmpTable buf parts 0 (rowHeadSize + colBitmapExSize (headColumnCount buf)) ∧
    cantianIndexRecordToMysqlRecord build prims store tmpTable
      { ctx with maxColIdx := invalidMaxUint32 } lob buf table.nullBytes parts zeroRecord =
        .ok m ∧
    (m.isNull q.field = true ∨ m q.field.offset ≠ .byte 0)
  overrun : ∀ pre q post p, Overrun ctx table.fields.length writeSet parts pre q post p →
    ∃ (lob : σ) (buf : Mem UInt8) (m m' : MysqlRecord),
      IndexFits tmpTable buf parts 0 (rowHeadSize + colBitmapExSize (headColumnCount buf)) ∧
      cantianIndexRecordToMysqlRecord build prims store tmpTable
        { ctx with maxColIdx := invalidMaxUint32 } lob buf table.nullBytes parts zeroRecord =
          .ok m ∧
      cantianIndexRecordToMysqlRecord build prims store tmpTable
        { ctx with
          maxColIdx := setMaxColIndex4Reading table.fields.length ctx.readSet writeSet
            (some (parts.map IndexColumn.fieldIndex)) }
        lob buf table.nullBytes parts zeroRecord = .ok m' ∧
      m'.isNull p.field = false ∧ m' p.field.offset ≠ .byte 0 ∧
      ColBits.ofCode (rowGetColumnBits2 buf pre.length) ≠ .null

/-- A part behind the one of the bound stays as it was, but for zeros at its start. -/
theorem indexDecode_behind (hsized : PrimsSized prims) (hlayout : table.Layout)
    (hindex : IndexOf table parts) {pre post : List IndexColumn} {s q : IndexColumn}
    (hsplit : parts = pre ++ s :: post) (hs : s.fieldIndex = ctx.maxColIdx) (hq : q ∈ post)
    {m : MysqlRecord}
    (hfits : IndexFits tmpTable buf parts 0
      (rowHeadSize + colBitmapExSize (headColumnCount buf)))
    (h : cantianIndexRecordToMysqlRecord build prims store tmpTable ctx lob buf table.nullBytes
      parts zeroRecord = .ok m) :
    m.isNull q.field = false ∧ m q.field.offset = .byte 0 := by
  unfold cantianIndexRecordToMysqlRecord at h
  obtain ⟨st, hrun, hst⟩ := result_bind_eq_ok.mp h
  cases hst
  rw [zeroRecord_writeBytes, hsplit, indexDecodeLoop_stop hs] at hrun
  rw [List.append_cons] at hsplit
  have hmem : ∀ p ∈ pre ++ [s], p ∈ parts := by
    intro p hp
    rw [hsplit]
    exact List.mem_append_left post hp
  have hqparts : q ∈ parts := by
    rw [hsplit]
    exact List.mem_append_right _ hq
  have hne : ∀ p ∈ pre ++ [s], p.fieldIndex ≠ q.fieldIndex := by
    have hcolumns := hindex.columns
    rw [hsplit, List.map_append] at hcolumns
    intro p hp heq
    exact List.disjoint_of_nodup_append hcolumns (List.mem_map_of_mem hp)
      (heq ▸ List.mem_map_of_mem hq)
  rw [hsplit] at hfits
  obtain ⟨hnull, hzero⟩ := indexDecodeLoop_first hsized hlayout hindex hmem hqparts hne
    keepsCopies_refl hfits.left hrun rfl
  exact ⟨hnull.trans (isNull_zeroRecord q.field), hzero⟩

/-- A part that is read behind the part of the last column stays as it was. -/
theorem lastColumnReadLast_of_agree (hsized : PrimsSized prims) (hlayout : table.Layout)
    (hindex : IndexOf table parts) {writeSet : Nat → Bool}
    (htelling : Telling build prims store tmpTable ctx table parts writeSet)
    (h : IndexAgree build prims store tmpTable ctx table parts writeSet) :
    LastColumnReadLast table.fields.length ctx.readSet writeSet parts := by
  intro hwritten pre s post hsplit hs q hq
  apply Bool.eq_false_of_not_eq_true
  intro hread
  have hqparts : q ∈ parts := by
    rw [hsplit]
    exact List.mem_append_right pre (List.mem_cons_of_mem s hq)
  obtain ⟨lob, buf, m, hfits, hfull, hvalue⟩ := htelling.read q hqparts hread
  obtain ⟨m', hearly, hsame⟩ := h lob buf zeroRecord m hfits hfull
  obtain ⟨hnull, hcells⟩ := hsame q hqparts hread
  have hk : setMaxColIndex4Reading table.fields.length ctx.readSet writeSet
      (some (parts.map IndexColumn.fieldIndex)) = table.fields.length - 1 :=
    if_pos (bitmapIsClearAll_not_iff.mpr hwritten)
  obtain ⟨hnull1, hzero⟩ := indexDecode_behind hsized hlayout hindex hsplit (hs.trans hk.symm) hq
    hfits hearly
  rcases hvalue with hvalue | hvalue
  · rw [hvalue, hnull1] at hnull
    cases hnull
  · have hpos := hindex.packLength_pos q hqparts
    apply hvalue
    rw [hcells hnull1 q.field.offset le_rfl (by omega), hzero]

/-- Without an early return a value that reaches into a part before it leaves a zero there. -/
theorem indexDecode_overrun (hsized : PrimsSized prims) (hlayout : table.Layout)
    (hindex : IndexOf table parts) (hlast : ∀ p ∈ parts, p.fieldIndex ≠ ctx.maxColIdx)
    {nBits : Nat} {writeSet : Nat → Bool} {pre post : List IndexColumn} {q p : IndexColumn}
    (hover : Overrun ctx nBits writeSet parts pre q post p) {record m : MysqlRecord}
    (hbits : ColBits.ofCode (rowGetColumnBits2 buf pre.length) ≠ .null)
    (hfits : IndexFits tmpTable buf parts 0
      (rowHeadSize + colBitmapExSize (headColumnCount buf)))
    (h : cantianIndexRecordToMysqlRecord build prims store tmpTable ctx lob buf table.nullBytes
      parts record = .ok m) : m p.field.offset = .byte 0 := by
  unfold cantianIndexRecordToMysqlRecord at h
  obtain ⟨st, hrun, hst⟩ := result_bind_eq_ok.mp h
  cases hst
  have hmem : ∀ r ∈ pre ++ q :: post, r ∈ parts := fun r hr => hover.split ▸ hr
  have hpre : ∀ r ∈ pre, r ∈ parts := fun r hr => hmem r (List.mem_append_left _ hr)
  obtain ⟨hq, hpost⟩ := List.forall_mem_cons.mp fun r hr => hmem r (List.mem_append_right pre hr)
  have hp := hpre p hover.mem
  have hne : ∀ r ∈ q :: post, r.fieldIndex ≠ p.fieldIndex := by
    intro r hr heq
    have hunread := hover.unread r hr
    rw [heq, hover.read] at hunread
    cases hunread
  obtain ⟨hqp, hne⟩ := List.forall_mem_cons.mp hne
  rw [hover.split] at hrun hfits
  obtain ⟨st1, hkeep1, hfits1, hrest⟩ := indexDecodeLoop_append hsized hlayout hindex hpre
    (fun r hr => hlast r (hpre r hr)) keepsCopies_refl hfits hrun
  rw [indexDecodeLoop] at hrest
  obtain ⟨st2, hstep, hrest⟩ := result_bind_eq_ok.mp hrest
  rw [if_neg (hlast q hq)] at hrest
  obtain ⟨hkeep2, hfits2, -⟩ := indexDecodeStep_spec hsized hlayout hindex hq hkeep1 hfits1 hstep
  obtain ⟨-, -, hzero⟩ := indexDecodeStep_first hsized hlayout hindex hq hkeep1 hfits1 hstep hp hqp
  rw [Nat.zero_add] at hzero
  exact (indexDecodeLoop_first hsized hlayout hindex hpost hp hne hkeep2 hfits2 hrest
    (hzero hbits hover.copies hover.reaches)).2

/-- A value that reaches into a part that is read is seen there. -/
theorem noOverrun_of_agree (hsized : PrimsSized prims) (hlayout : table.Layout)
    (hcolumns : table.fields.length ≤ ctcMaxColumns) (hindex : IndexOf table parts)
    {writeSet : Nat → Bool}
    (htelling : Telling build prims store tmpTable ctx table parts writeSet)
    (h : IndexAgree build prims store tmpTable ctx table parts writeSet) :
    NoOverrun ctx table.fields.length writeSet parts := by
  intro pre q post p hover
  obtain ⟨lob, buf, m, m', hfits, hfull, hearly, hnull, hcell, hbits⟩ :=
    htelling.overrun pre q post p hover
  obtain ⟨m2, hm2, hsame⟩ := h lob buf zeroRecord m hfits hfull
  rw [hearly] at hm2
  cases hm2
  have hp : p ∈ parts := by
    rw [hover.split]
    exact List.mem_append_left _ hover.mem
  have hpos := hindex.packLength_pos p hp
  have hcells := (hsame p hp hover.read).cells hnull p.field.offset le_rfl (by omega)
  have hover' : Overrun { ctx with maxColIdx := invalidMaxUint32 } table.fields.length writeSet
      parts pre q post p :=
    ⟨hover.split, hover.behindLast, hover.unread, hover.copies, hover.mem, hover.read,
      hover.reaches⟩
  have hzero := indexDecode_overrun hsized hlayout hindex
    (fun r hr => hindex.ne_invalidMaxUint32 hcolumns hr) hover' hbits hfits hfull
  exact hcell (hcells.symm.trans hzero)

/-- **The early return.** Rows of the table agree with and without it. Records of an index agree
if no part that is read stands behind the part of the last column of the table when something is
written, and no value that is left out reaches into a part that is read. Otherwise they disagree,
if the values of the index can show it. -/
theorem setMaxColIndex4Reading_agrees (hsized : PrimsSized prims) (hlayout : table.Layout)
    (hordered : Ordered table) (hcolumns : table.fields.length ≤ ctcMaxColumns)
    (hindex : IndexOf table parts) (writeSet : Nat → Bool) :
    RowsAgree build prims store ctx table writeSet ∧
      (LastColumnReadLast table.fields.length ctx.readSet writeSet parts ∧
          NoOverrun ctx table.fields.length writeSet parts →
        IndexAgree build prims store tmpTable ctx table parts writeSet) ∧
      (Telling build prims store tmpTable ctx table parts writeSet →
        (IndexAgree build prims store tmpTable ctx table parts writeSet ↔
          LastColumnReadLast table.fields.length ctx.readSet writeSet parts ∧
            NoOverrun ctx table.fields.length writeSet parts)) := by
  have hagree : LastColumnReadLast table.fields.length ctx.readSet writeSet parts ∧
      NoOverrun ctx table.fields.length writeSet parts →
      IndexAgree build prims store tmpTable ctx table parts writeSet := by
    rintro ⟨hlast, hover⟩
    exact indexAgree hsized hlayout hcolumns hindex hlast hover
  refine ⟨rowsAgree hlayout hordered hcolumns writeSet, hagree, ?_⟩
  intro htelling
  refine ⟨?_, hagree⟩
  intro h
  exact ⟨lastColumnReadLast_of_agree hsized hlayout hindex htelling h,
    noOverrun_of_agree hsized hlayout hcolumns hindex htelling h⟩

end

/-! ### An index on an expression -/

/-- Server functions of the right lengths. -/
def sizedPrims : ServerPrims := { ServerPrims.none with doubleToFloat := fun _ => [0, 0, 0, 0] }

theorem sizedPrims_sized : PrimsSized sizedPrims := by
  refine ⟨fun _ => rfl, ?_⟩
  intro d p s image h
  cases h

def expressionField (fieldName : String) (columnType : ColumnType) (offset : Nat) (gcol : Gcol) :
    Field := ⟨fieldName, columnType, offset, none, gcol, false, false⟩

/-- `(a INT NOT NULL, b INT NOT NULL)` with an index on `(a + 1), b, a`: the expression is a
virtual column behind the others. -/
def expressionTable : Table :=
  ⟨[expressionField "a" (.long false) 1 .none, expressionField "b" (.long false) 5 .none,
    expressionField "a + 1" (.longlong false) 9 .virtual], 1⟩

def partExpression : IndexColumn := ⟨expressionField "a + 1" (.longlong false) 9 .virtual, 2⟩

def partB : IndexColumn := ⟨expressionField "b" (.long false) 5 .none, 1⟩

def partA : IndexColumn := ⟨expressionField "a" (.long false) 1 .none, 0⟩

def expressionParts : List IndexColumn := [partExpression, partB, partA]

/-- A SELECT of all columns. -/
def expressionCtx : ReadCtx := ⟨fun c => c < 3, true, false, 0⟩

/-- The server marks a virtual column that is read as written. -/
def expressionWriteSet : Nat → Bool := fun c => c == 2

theorem expressionTable_ordered : Ordered expressionTable := by
  intro i j f g hij hf hg hfs hgs
  have hj : j < 3 := (List.getElem?_eq_some_iff.mp hg).1
  obtain ⟨rfl, rfl⟩ | rfl : (i = 0 ∧ j = 1) ∨ j = 2 := by omega
  · cases hf
    cases hg
    exact le_rfl
  · cases hg
    cases hgs

theorem forall_expressionParts {P : IndexColumn → Prop} (h : P partExpression) (hb : P partB)
    (ha : P partA) : ∀ p ∈ expressionParts, P p :=
  List.forall_mem_cons.mpr ⟨h, List.forall_mem_cons.mpr ⟨hb, List.forall_mem_singleton.mpr ha⟩⟩

theorem expressionParts_index : IndexOf expressionTable expressionParts := by
  have hpos : ∀ n, 0 < n + 1 := Nat.succ_pos
  refine ⟨by decide, ?_, forall_expressionParts trivial trivial trivial,
    forall_expressionParts rfl rfl rfl, forall_expressionParts (hpos 7) (hpos 3) (hpos 3)⟩
  apply forall_expressionParts
  · exact ⟨_, rfl, rfl, rfl, le_rfl⟩
  · exact ⟨_, rfl, rfl, rfl, le_rfl⟩
  · exact ⟨_, rfl, rfl, rfl, le_rfl⟩

theorem expressionTable_layout : expressionTable.Layout := ⟨by decide, by decide, by decide⟩

/-- The entry `6, 7, 5` of the index. -/
def expressionEntry : Mem UInt8 :=
  Mem.write (fun _ => 0) 0
    [24, 0, 3, 0, 0, 22, 0, 0, 6, 0, 0, 0, 0, 0, 0, 0, 7, 0, 0, 0, 5, 0, 0, 0]

theorem expressionEntry_fits : IndexFits false expressionEntry expressionParts 0
    (rowHeadSize + colBitmapExSize (headColumnCount expressionEntry)) :=
  ⟨fun h => (by cases h), fun h => (by cases h), fun h => (by cases h), trivial⟩

theorem expression_telling : Telling .debug sizedPrims .refusing false expressionCtx
    expressionTable expressionParts expressionWriteSet := by
  refine ⟨?_, ?_⟩
  · apply forall_expressionParts
    · exact fun _ => ⟨(), expressionEntry, _, expressionEntry_fits, rfl, Or.inr (by decide)⟩
    · exact fun _ => ⟨(), expressionEntry, _, expressionEntry_fits, rfl, Or.inr (by decide)⟩
    · exact fun _ => ⟨(), expressionEntry, _, expressionEntry_fits, rfl, Or.inr (by decide)⟩
  · intro pre q post p hover
    exact absurd hover (noOverrun_of_decodedLength expressionTable_layout expressionParts_index
      (forall_expressionParts rfl rfl rfl) 3 expressionWriteSet pre q post p)

theorem setMaxColIndex4Reading_agrees_expression :
    RowsAgree .debug sizedPrims .refusing expressionCtx expressionTable expressionWriteSet ∧
      (IndexAgree .debug sizedPrims .refusing false expressionCtx expressionTable expressionParts
          expressionWriteSet ↔
        LastColumnReadLast 3 expressionCtx.readSet expressionWriteSet expressionParts ∧
          NoOverrun expressionCtx 3 expressionWriteSet expressionParts) := by
  obtain ⟨hrows, -, hindex⟩ := @setMaxColIndex4Reading_agrees Unit .debug sizedPrims .refusing
    false expressionCtx expressionTable expressionParts sizedPrims_sized expressionTable_layout
    expressionTable_ordered (by decide) expressionParts_index expressionWriteSet
  exact ⟨hrows, hindex expression_telling⟩

/-- Only the first part is decoded: `b` is 0 and not 7. -/
theorem expression_not_indexAgree :
    ¬ IndexAgree .debug sizedPrims .refusing false expressionCtx expressionTable expressionParts
      expressionWriteSet := by
  intro h
  obtain ⟨m', hearly, hsame⟩ := h () expressionEntry zeroRecord _ expressionEntry_fits rfl
  cases hearly
  have hb := hsame partB (List.mem_cons_of_mem _ List.mem_cons_self) rfl
  have hcell := hb.cells rfl 5 le_rfl (by decide)
  exact absurd hcell (by decide)

end CantianConnector.Index
