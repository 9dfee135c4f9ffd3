import TactileSensors.Firmware.Cyacd
import TactileSensors.Firmware.PacketCodec

/-!
# The format of a firmware file

A file that is written line by line is read back as it was. A row that is longer than it says is read as well
if the bytes happen to have the right sum.
-/

namespace TactileSensors.Firmware

/-! ## Writing -/

structure Style where
  upper : Bool
  crlf : Bool

def hexChar (upper : Bool) (digit : Nat) : Char :=
  if digit < 10 then Char.ofNat ('0'.toNat + digit)
  else if upper then Char.ofNat ('A'.toNat + digit - 10)
  else Char.ofNat ('a'.toNat + digit - 10)

def b2aHex (upper : Bool) : List UInt8 → List Char
  | [] => []
  | byte :: bytes => hexChar upper (byte.toNat / 16) :: hexChar upper (byte.toNat % 16) :: b2aHex upper bytes

def lineEnd (crlf : Bool) : List Char := if crlf then ['\r', '\n'] else ['\n']

def headerBytes (image : Cyacd) : List UInt8 :=
  [(image.siliconId >>> 24).toUInt8, (image.siliconId >>> 16).toUInt8, (image.siliconId >>> 8).toUInt8,
    image.siliconId.toUInt8, image.siliconRevision, image.checksumType]

def rowHead (row : Row) : List UInt8 :=
  [row.arrayId, highByte row.rowNumber, lowByte row.rowNumber, highByte row.data.length.toUInt16,
    lowByte row.data.length.toUInt16] ++ row.data

def writtenRow (row : Row) : List UInt8 := rowHead row ++ [rowChecksum (rowHead row)]

def writeRows (style : Nat → Style) : List Row → List Char
  | [] => []
  | row :: rows => ':' :: b2aHex (style 0).upper (writtenRow row) ++ lineEnd (style 0).crlf ++
      writeRows (fun line => style (line + 1)) rows

def Cyacd.write (style : Nat → Style) (image : Cyacd) : List Char :=
  b2aHex (style 0).upper (headerBytes image) ++ lineEnd (style 0).crlf ++
    writeRows (fun line => style (line + 1)) image.firmware

/-! ## Hexadecimal -/

theorem hexDigit_hexChar (upper : Bool) {digit : Nat} (small : digit < 16) :
    hexDigit (hexChar upper digit) = some digit.toUInt8 := by
  have all : ∀ upper : Bool, ∀ digit : Fin 16, hexDigit (hexChar upper digit) = some digit.val.toUInt8 := by
    decide
  exact all upper ⟨digit, small⟩

theorem nibbles_join (byte : UInt8) :
    (byte.toNat / 16).toUInt8 <<< 4 ||| (byte.toNat % 16).toUInt8 = byte := by
  have small := byte.toNat_lt
  have low : byte.toNat % 16 < 2 ^ 4 := Nat.mod_lt _ (by decide)
  have join := Nat.shiftLeft_add_eq_or_of_lt low (byte.toNat / 16)
  have four : UInt8.toNat 4 % 8 = 4 := rfl
  have high : (byte.toNat / 16).toUInt8.toNat = byte.toNat / 16 :=
    UInt8.toNat_ofNat_of_lt' (Nat.lt_of_le_of_lt (Nat.div_le_self _ _) small)
  have rest : (byte.toNat % 16).toUInt8.toNat = byte.toNat % 16 :=
    UInt8.toNat_ofNat_of_lt' (Nat.lt_of_le_of_lt (Nat.mod_le _ _) small)
  have whole : byte.toNat / 16 * 2 ^ 4 % 2 ^ 8 = byte.toNat / 16 * 2 ^ 4 := Nat.mod_eq_of_lt (by omega)
  apply UInt8.toNat_inj.mp
  rw [UInt8.toNat_or, UInt8.toNat_shiftLeft, high, rest, four]
  rw [Nat.shiftLeft_eq] at join ⊢
  rw [whole, ← join]
  omega

theorem a2bHex_b2aHex (upper : Bool) (bytes : List UInt8) : a2bHex (b2aHex upper bytes) = .ok bytes := by
  induction bytes with
  | nil => rfl
  | cons byte bytes ih =>
      have small := byte.toNat_lt
      have high := hexDigit_hexChar upper (by omega : byte.toNat / 16 < 16)
      have low := hexDigit_hexChar upper (Nat.mod_lt _ (by decide) : byte.toNat % 16 < 16)
      simp only [b2aHex, a2bHex, high, low, ih, Except.map, nibbles_join]

/-! ## Lines -/

def Inline (text : List Char) : Prop := ∀ c ∈ text, c ≠ '\r' ∧ c ≠ '\n'

theorem hexChar_inline (upper : Bool) {digit : Nat} (small : digit < 16) :
    hexChar upper digit ≠ '\r' ∧ hexChar upper digit ≠ '\n' := by
  have all : ∀ upper : Bool, ∀ digit : Fin 16, hexChar upper digit ≠ '\r' ∧ hexChar upper digit ≠ '\n' := by
    decide
  exact all upper ⟨digit, small⟩

theorem inline_b2aHex (upper : Bool) (bytes : List UInt8) : Inline (b2aHex upper bytes) := by
  induction bytes with
  | nil => exact nofun
  | cons byte bytes ih =>
      have small := byte.toNat_lt
      have high := hexChar_inline upper (by omega : byte.toNat / 16 < 16)
      have low := hexChar_inline upper (Nat.mod_lt _ (by decide) : byte.toNat % 16 < 16)
      exact List.forall_mem_cons.mpr ⟨high, List.forall_mem_cons.mpr ⟨low, ih⟩⟩

theorem translateNewlines_append {text : List Char} (inline : Inline text) (rest : List Char) :
    translateNewlines (text ++ rest) = text ++ translateNewlines rest := by
  induction text with
  | nil => rfl
  | cons c text ih =>
      obtain ⟨here, later⟩ := List.forall_mem_cons.mp inline
      have pass : translateNewlines (c :: (text ++ rest)) = c :: translateNewlines (text ++ rest) := by
        rw [translateNewlines]
        · exact fun _ cr => absurd cr here.1
        · exact fun cr => absurd cr here.1
      rw [List.cons_append, pass, ih later]
      rfl

theorem translateNewlines_lineEnd (crlf : Bool) (rest : List Char) :
    translateNewlines (lineEnd crlf ++ rest) = '\n' :: translateNewlines rest := by
  cases crlf with
  | true => rfl
  | false => rfl

theorem splitLines_append {text : List Char} (inline : Inline text) (line rest : List Char) :
    splitLines line (text ++ '\n' :: rest) = (line ++ text ++ ['\n']) :: splitLines [] rest := by
  induction text generalizing line with
  | nil => simp [splitLines]
  | cons c text ih =>
      obtain ⟨here, later⟩ := List.forall_mem_cons.mp inline
      rw [List.cons_append, splitLines, if_neg here.2, ih later]
      simp

theorem readlines_append {text : List Char} (inline : Inline text) (crlf : Bool) (rest : List Char) :
    readlines (text ++ lineEnd crlf ++ rest) = (text ++ ['\n']) :: readlines rest := by
  rw [readlines, List.append_assoc, translateNewlines_append inline, translateNewlines_lineEnd,
    splitLines_append inline]
  rfl

theorem rstrip_line {text : List Char} (inline : Inline text) : rstrip (text ++ ['\n']) = text := by
  have ends : text.reverse.dropWhile (fun c => decide (c = '\r' ∨ c = '\n')) = text.reverse := by
    cases reversed : text.reverse with
    | nil => rfl
    | cons c rest =>
        have last : c ∈ text := List.mem_reverse.mp (reversed ▸ List.mem_cons_self)
        refine List.dropWhile_cons_of_neg ?_
        simpa using inline c last
  rw [rstrip, List.reverse_append]
  exact (congrArg List.reverse ends).trans (List.reverse_reverse text)

/-! ## Rows -/

theorem parseRow_eq (line : List Char) : parseRow line = (a2bHex (rstrip (line.drop 1))).bind rowOf := rfl

def dataLength (line : List UInt8) : Nat := (line.getD 4 0).toNat + 256 * (line.getD 3 0).toNat

theorem length_of_checksum {bytes : List UInt8} {checksum : UInt8}
    (there : bytes[5 + dataLength bytes]? = some checksum) : 6 + dataLength bytes ≤ bytes.length := by
  have inside := (List.getElem?_eq_some_iff.mp there).1
  omega

theorem rowOf_eq_ok {bytes : List UInt8} {row : Row} : rowOf bytes = .ok row ↔
    bytes[5 + dataLength bytes]? = some (rowChecksum bytes.dropLast) ∧
      row = ⟨bytes.getD 0 0, (bytes.getD 1 0).toUInt16 <<< 8 ||| (bytes.getD 2 0).toUInt16,
        (bytes.drop 5).take (dataLength bytes)⟩ := by
  match bytes with
  | [] => exact iff_of_false nofun fun h => absurd (length_of_checksum h.1) (by simp)
  | [_] => exact iff_of_false nofun fun h => absurd (length_of_checksum h.1) (by simp; omega)
  | [_, _] => exact iff_of_false nofun fun h => absurd (length_of_checksum h.1) (by simp; omega)
  | [_, _, _] => exact iff_of_false nofun fun h => absurd (length_of_checksum h.1) (by simp; omega)
  | [_, _, _, _] => exact iff_of_false nofun fun h => absurd (length_of_checksum h.1) (by simp; omega)
  | a :: b :: c :: d :: e :: rest =>
      have length : (d.toUInt16 <<< 8 ||| e.toUInt16).toNat = dataLength (a :: b :: c :: d :: e :: rest) := by
        rw [UInt16.or_comm, toNat_join]
        rfl
      have read : rowOf (a :: b :: c :: d :: e :: rest) = (do
          let checksum ← cyacdByte (a :: b :: c :: d :: e :: rest)
            (5 + dataLength (a :: b :: c :: d :: e :: rest))
          if checksum ≠ rowChecksum (a :: b :: c :: d :: e :: rest).dropLast then throw .assertionError
          return ⟨a, b.toUInt16 <<< 8 ||| c.toUInt16,
            rest.take (dataLength (a :: b :: c :: d :: e :: rest))⟩) := by
        rw [← length]
        rfl
      rw [read, cyacdByte]
      cases there : (a :: b :: c :: d :: e :: rest)[5 + dataLength (a :: b :: c :: d :: e :: rest)]? with
      | none => exact iff_of_false nofun nofun
      | some checksum =>
          generalize rowChecksum (a :: b :: c :: d :: e :: rest).dropLast = calculated
          by_cases same : checksum = calculated
          · simp [same, bind, Except.bind, pure, Except.pure, eq_comm]
          · simp [same, bind, Except.bind, throw, throwThe, MonadExceptOf.throw]

/-! ## Reading what was written -/

theorem rowChecksum_eq_neg (data : List UInt8) : rowChecksum data = -data.foldl (· + ·) 0 := by
  rw [rowChecksum, UInt8.not_eq_neg_sub, UInt8.sub_add_cancel]

theorem toNat_foldl_add (data : List UInt8) : (data.foldl (· + ·) (0 : UInt8)).toNat = total data % 256 := by
  induction data using List.reverseRecOn with
  | nil => rfl
  | append_singleton data byte ih =>
      rw [List.foldl_append, List.foldl_cons, List.foldl_nil, UInt8.toNat_add, ih, total, total,
        List.map_append, List.sum_append]
      simp

theorem total_rowChecksum (data : List UInt8) : total (data ++ [rowChecksum data]) % 256 = 0 := by
  have cancel : data.foldl (· + ·) (0 : UInt8) + rowChecksum data = 0 := by
    rw [rowChecksum_eq_neg]
    exact UInt8.add_right_neg _
  have zero := congrArg UInt8.toNat cancel
  rw [UInt8.toNat_add, toNat_foldl_add, UInt8.toNat_zero] at zero
  have split : total (data ++ [rowChecksum data]) = total data + (rowChecksum data).toNat := by
    rw [total, total, List.map_append, List.sum_append]
    simp
  omega

theorem dataLength_writtenRow {row : Row} (fits : row.data.length ≤ 65535) :
    dataLength (writtenRow row) = row.data.length := by
  have length : row.data.length.toUInt16.toNat = row.data.length :=
    UInt16.toNat_ofNat_of_lt' (Nat.lt_of_le_of_lt fits (by decide))
  exact (toNat_bytes row.data.length.toUInt16).trans length

theorem rowOf_writtenRow {row : Row} (fits : row.data.length ≤ 65535) : rowOf (writtenRow row) = .ok row := by
  have length := dataLength_writtenRow fits
  have head : (rowHead row).length = 5 + row.data.length := by
    rw [rowHead, List.length_append]
    rfl
  refine rowOf_eq_ok.mpr ⟨?_, ?_⟩
  · rw [length, writtenRow, List.dropLast_concat, ← head]
    exact List.getElem?_concat_length
  · have data : ((writtenRow row).drop 5).take row.data.length = row.data := by
      simp [writtenRow, rowHead]
    have number : (highByte row.rowNumber).toUInt16 <<< 8 ||| (lowByte row.rowNumber).toUInt16 =
        row.rowNumber := by
      rw [UInt16.or_comm, bytes_join]
    rw [length, data]
    exact congrArg (Row.mk row.arrayId · row.data) number.symm

theorem parseRow_writtenRow (upper : Bool) {row : Row} (fits : row.data.length ≤ 65535) :
    parseRow (':' :: b2aHex upper (writtenRow row) ++ ['\n']) = .ok row := by
  have text : rstrip ((':' :: b2aHex upper (writtenRow row) ++ ['\n']).drop 1) =
      b2aHex upper (writtenRow row) := rstrip_line (inline_b2aHex upper _)
  rw [parseRow_eq, text, a2bHex_b2aHex]
  exact rowOf_writtenRow fits

theorem mapM_parseRow_writeRows (style : Nat → Style) {rows : List Row}
    (fits : ∀ row ∈ rows, row.data.length ≤ 65535) :
    (readlines (writeRows style rows)).mapM parseRow = .ok rows := by
  induction rows generalizing style with
  | nil => rfl
  | cons row rows ih =>
      obtain ⟨here, later⟩ := List.forall_mem_cons.mp fits
      have inline : Inline (':' :: b2aHex (style 0).upper (writtenRow row)) :=
        List.forall_mem_cons.mpr ⟨by decide, inline_b2aHex _ _⟩
      rw [writeRows, readlines_append inline, List.mapM_cons, parseRow_writtenRow _ here, ih _ later]
      rfl

theorem or_shiftLeft {low width : Nat} (small : low < 2 ^ width) (high : Nat) :
    low ||| high <<< width = low + high * 2 ^ width := by
  rw [Nat.or_comm, ← Nat.shiftLeft_add_eq_or_of_lt small, Nat.shiftLeft_eq, Nat.add_comm]

theorem siliconId_bytes {id : Nat} (small : id < 2 ^ 32) :
    id.toUInt8.toNat ||| (id >>> 8).toUInt8.toNat <<< 8 ||| (id >>> 16).toUInt8.toNat <<< 16 |||
      (id >>> 24).toUInt8.toNat <<< 24 = id := by
  have byte : ∀ n : Nat, n.toUInt8.toNat = n % 2 ^ 8 := fun _ => UInt8.toNat_ofNat'
  simp only [byte, Nat.shiftRight_eq_div_pow]
  have one : id % 2 ^ 8 < 2 ^ 8 := Nat.mod_lt _ (by decide)
  rw [or_shiftLeft one]
  have two : id % 2 ^ 8 + id / 2 ^ 8 % 2 ^ 8 * 2 ^ 8 < 2 ^ 16 := by omega
  rw [or_shiftLeft two]
  have three : id % 2 ^ 8 + id / 2 ^ 8 % 2 ^ 8 * 2 ^ 8 + id / 2 ^ 16 % 2 ^ 8 * 2 ^ 16 < 2 ^ 24 := by omega
  rw [or_shiftLeft three]
  omega

/-- Reading a file that was written line by line, each in any style, gives what was written. -/
theorem parse_write (style : Nat → Style) {image : Cyacd} (id : image.siliconId < 2 ^ 32)
    (fits : ∀ row ∈ image.firmware, row.data.length ≤ 65535) :
    Cyacd.parse (image.write style) = .ok image := by
  have text : rstrip (b2aHex (style 0).upper (headerBytes image) ++ ['\n']) =
      b2aHex (style 0).upper (headerBytes image) := rstrip_line (inline_b2aHex _ _)
  have rows := mapM_parseRow_writeRows (fun line => style (line + 1)) fits
  rw [Cyacd.parse, Cyacd.write, readlines_append (inline_b2aHex _ _)]
  simp only [text, a2bHex_b2aHex, rows]
  exact congrArg (fun id => Except.ok (Cyacd.mk id image.siliconRevision image.checksumType image.firmware))
    (siliconId_bytes id)

theorem parse_write_image : Cyacd.parse (Cyacd.write (fun line => ⟨line = 0, line = 1⟩)
      ⟨0x2E127069, 0x11, 0x00, [⟨0x00, 0x0102, [0x41, 0xFE]⟩]⟩) =
    .ok ⟨0x2E127069, 0x11, 0x00, [⟨0x00, 0x0102, [0x41, 0xFE]⟩]⟩ :=
  parse_write _ (by decide) (by decide)

/-! ## Reading what was damaged -/

def Intact (line : List Char) (row : Row) : Prop :=
  ∃ bytes, a2bHex (rstrip (line.drop 1)) = .ok bytes ∧ bytes.length = 6 + dataLength bytes ∧
    total bytes % 256 = 0 ∧ row.data.length = dataLength bytes

def rowLines (content : List Char) : List (List Char) := (readlines content).tail

/-- Every row line of the file is intact, and is the row that was read from it. -/
def RowsIntact (content : List Char) (image : Cyacd) : Prop :=
  List.Forall₂ Intact (rowLines content) image.firmware

/-- The line has no more bytes than its length field says. -/
def NotLonger (line : List Char) : Prop :=
  ∀ bytes, a2bHex (rstrip (line.drop 1)) = .ok bytes → bytes.length ≤ 6 + dataLength bytes

theorem intact_iff {line : List Char} {row : Row} (read : parseRow line = .ok row) :
    Intact line row ↔ NotLonger line := by
  rw [parseRow_eq] at read
  cases decoded : a2bHex (rstrip (line.drop 1)) with
  | error failure => rw [decoded] at read; nomatch read
  | ok bytes =>
      rw [decoded] at read
      obtain ⟨checksum, rfl⟩ := rowOf_eq_ok.mp read
      have enough := length_of_checksum checksum
      constructor
      · rintro ⟨bytes', decoded', length, -⟩ bytes'' decoded''
        rw [decoded'] at decoded''
        cases decoded''
        exact Nat.le_of_eq length
      · intro notLonger
        have length : bytes.length = 6 + dataLength bytes := Nat.le_antisymm (notLonger bytes decoded) enough
        refine ⟨bytes, decoded, length, ?_, ?_⟩
        · have last : bytes = bytes.dropLast ++ [rowChecksum bytes.dropLast] := by
            have nonempty : bytes ≠ [] := List.ne_nil_of_length_pos (by omega)
            have at_last : bytes.getLast nonempty = rowChecksum bytes.dropLast := by
              rw [List.getLast_eq_getElem]
              have position : bytes.length - 1 = 5 + dataLength bytes := by omega
              exact (List.getElem?_eq_some_iff.mp (position ▸ checksum)).2
            rw [← at_last, List.dropLast_concat_getLast]
          rw [last]
          exact total_rowChecksum _
        · show ((bytes.drop 5).take (dataLength bytes)).length = dataLength bytes
          rw [List.length_take, List.length_drop]
          omega

theorem bind_eq_ok {α β : Type} {x : Except CyacdError α} {f : α → Except CyacdError β} {b : β} :
    x >>= f = .ok b ↔ ∃ a, x = .ok a ∧ f a = .ok b := by
  cases x with
  | error failure => exact iff_of_false nofun fun ⟨_, fails, _⟩ => nomatch fails
  | ok a => exact ⟨fun h => ⟨a, rfl, h⟩, fun ⟨_, rfl, h⟩ => h⟩

theorem forall₂_of_mapM {lines : List (List Char)} {rows : List Row} (read : lines.mapM parseRow = .ok rows) :
    List.Forall₂ (fun line row => parseRow line = .ok row) lines rows := by
  induction lines generalizing rows with
  | nil => cases read; exact .nil
  | cons line lines ih =>
      rw [List.mapM_cons] at read
      obtain ⟨row, first, read⟩ := bind_eq_ok.mp read
      obtain ⟨rest, later, read⟩ := bind_eq_ok.mp read
      cases read
      exact .cons first (ih later)

theorem rows_of_parse {content : List Char} {image : Cyacd} (accepted : Cyacd.parse content = .ok image) :
    List.Forall₂ (fun line row => parseRow line = .ok row) (rowLines content) image.firmware := by
  rw [Cyacd.parse] at accepted
  rw [rowLines]
  cases lines : readlines content with
  | nil => rw [lines] at accepted; nomatch accepted
  | cons headerLine lines =>
      simp only [lines] at accepted
      obtain ⟨header, -, accepted⟩ := bind_eq_ok.mp accepted
      obtain ⟨_, -, accepted⟩ := bind_eq_ok.mp accepted
      obtain ⟨_, -, accepted⟩ := bind_eq_ok.mp accepted
      obtain ⟨_, -, accepted⟩ := bind_eq_ok.mp accepted
      obtain ⟨_, -, accepted⟩ := bind_eq_ok.mp accepted
      obtain ⟨_, -, accepted⟩ := bind_eq_ok.mp accepted
      obtain ⟨_, -, accepted⟩ := bind_eq_ok.mp accepted
      obtain ⟨rows, read, accepted⟩ := bind_eq_ok.mp accepted
      cases accepted
      exact forall₂_of_mapM read

/-- A file that is accepted has only intact rows if and only if none is longer than it says. -/
theorem rowsIntact_iff {content : List Char} {image : Cyacd} (accepted : Cyacd.parse content = .ok image) :
    RowsIntact content image ↔ ∀ line ∈ rowLines content, NotLonger line := by
  have read := rows_of_parse accepted
  rw [RowsIntact]
  generalize rowLines content = lines, image.firmware = rows at read ⊢
  induction read with
  | nil => exact iff_of_true .nil nofun
  | cons first _ ih =>
      rw [List.forall₂_cons, List.forall_mem_cons]
      exact and_congr (intact_iff first) ih

def longRow : List Char := "2E1270691100\n:0101020001415DAB\n".toList

theorem parse_longRow :
    Cyacd.parse longRow = .ok ⟨0x2E127069, 0x11, 0x00, [⟨0x01, 0x0102, [0x41]⟩]⟩ := by
  decide +kernel

theorem rowsIntact_iff_longRow :
    RowsIntact longRow ⟨0x2E127069, 0x11, 0x00, [⟨0x01, 0x0102, [0x41]⟩]⟩ ↔
      ∀ line ∈ rowLines longRow, NotLonger line :=
  rowsIntact_iff parse_longRow

theorem longRow_accepted :
    ¬ ∀ content image, Cyacd.parse content = .ok image → RowsIntact content image := by
  intro intact
  have rows := intact longRow _ parse_longRow
  have lines : rowLines longRow = [":0101020001415DAB\n".toList] := by decide +kernel
  rw [RowsIntact, lines] at rows
  obtain ⟨bytes, decoded, length, -⟩ := (List.forall₂_cons.mp rows).1
  have row : a2bHex (rstrip (":0101020001415DAB\n".toList.drop 1)) =
      .ok [0x01, 0x01, 0x02, 0x00, 0x01, 0x41, 0x5D, 0xAB] := by decide +kernel
  rw [row] at decoded
  cases decoded
  revert length
  decide

end TactileSensors.Firmware
