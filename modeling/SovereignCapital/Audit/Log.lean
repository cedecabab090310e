import SovereignCapital.Lib.Double
import SovereignCapital.Lib.JsonReader
import SovereignCapital.Lib.Lines
import SovereignCapital.Lib.Runs

/-! # The audit log

`AuditLogger` of `fioa/audit.py`: records are appended to a file as lines of JSON, a file that grew
too large is cut down to its last bytes, and the last records are read from the end of the file,
chunk by chunk. A cut keeps the record that triggered it exactly when the bytes it keeps are more
than that record has.
-/

namespace SovereignCapital.Audit

open Bytes Lines
open Bytes.JsonTree (decodeUtf8 decodeUtf8_encodeUtf8 encodeUtf8_ge)

/-! ## Records -/

/-- A call of `append`, at a second of the clock. -/
structure Call where
  ts : ℤ
  event : Text
  fields : Dict Text JsonTree

/-- `item`: the fields of the call may replace its time. -/
def Call.item (call : Call) : JsonTree :=
  .object (call.fields.entries.foldl (fun item field => item.set field.1 field.2)
    ((Dict.empty.set "ts".toList (.word (.ofInt call.ts))).set "event".toList
      (.text call.event))).entries

structure Record where
  call : Call
  readable : call.item.Readable

namespace Record

def item (record : Record) : JsonTree := record.call.item

def line (record : Record) : List Byte := encodeUtf8 record.item.rawDumps

def payload (record : Record) : List Byte := record.line ++ [10]

end Record

/-! ## Writing -/

/-- The fields of `AuditLogger` that decide what is written. -/
structure AuditLogger where
  maxBytes : ℤ
  enabled : Bool

namespace AuditLogger

/-- `int(self.max_bytes * 0.70)`; nothing where the product overflows. -/
def keepBytes (logger : AuditLogger) : Option ℤ :=
  (Double.ofInt logger.maxBytes).map fun x =>
    Double.trunc (Double.mul x (Double.nearest (7 / 10)))

/-- `_maybe_compact`. Where the product overflows the file stays as it is. -/
def maybeCompact (logger : AuditLogger) (file : List Byte) : List Byte :=
  if (file.length : ℤ) ≤ logger.maxBytes then file
  else
    match logger.keepBytes with
    | none => file
    | some keep => behindFirst (file.drop (max 0 (file.length - keep)).toNat)

def append (logger : AuditLogger) (file : List Byte) (record : Record) : List Byte :=
  if logger.enabled then logger.maybeCompact (file ++ record.payload) else file

end AuditLogger

/-! ## Reading -/

/-- The loop of `_tail_bytes`: chunks of 8192 bytes, from the end of the file backwards. -/
def readBack (file : List Byte) (limit pos : ℕ) (data : List Byte) : List Byte :=
  if pos = 0 ∨ limit < data.count 10 then data
  else
    let size := min 8192 pos
    let data := (file.drop (pos - size)).take size ++ data
    if 5000000 < data.length then data else readBack file limit (pos - size) data
termination_by pos
decreasing_by omega

/-- The bytes `bytes.strip` removes. -/
def isByteSpace (b : Byte) : Bool := (9 ≤ b.val && b.val ≤ 13) || b.val == 32

/-- `_tail_bytes`: a line that is no JSON is skipped. -/
def tailBytes (file : List Byte) (limit : ℕ) : List JsonTree :=
  let data := readBack file limit file.length []
  let lines := (splitLines data).filter fun line => !line.all isByteSpace
  (lastN limit lines).filterMap fun line => (decodeUtf8 line).bind JsonTree.loads

def AuditLogger.tail (logger : AuditLogger) (limit : ℤ) (file : List Byte) : List JsonTree :=
  if logger.enabled then tailBytes file (max 1 (min 5000 limit)).toNat else []

/-! ## Runs -/

structure State where
  file : List Byte
  log : List Record

/-- Before the first record there is no file. -/
def State.start : State := ⟨[], []⟩

def AuditLogger.step (logger : AuditLogger) (s : State) (record : Record) : State :=
  ⟨logger.append s.file record, s.log ++ [record]⟩

/-! ## Lines of records -/

theorem Record.isLine_line (record : Record) : IsLine record.line := by
  have hge : ∀ b ∈ record.line, 32 ≤ b.val :=
    encodeUtf8_ge (JsonTree.print_ge record.item fun _ h => absurd h List.not_mem_nil)
  intro b hb
  have hb' := hge b hb
  refine ⟨?_, ?_⟩ <;> rintro rfl <;> revert hb' <;> decide

theorem isLine_of_mem_lines {records : List Record} :
    ∀ line ∈ records.map Record.line, IsLine line := by
  intro line hline
  obtain ⟨record, -, rfl⟩ := List.mem_map.1 hline
  exact record.isLine_line

theorem Record.exists_line (record : Record) : ∃ rest, record.line = 0x7b :: rest := by
  have htext : ∃ rest, record.item.rawDumps = '\x7b' :: rest := by
    rw [Record.item, Call.item, JsonTree.rawDumps, JsonTree.print_object]
    exact ⟨_, rfl⟩
  obtain ⟨rest, hrest⟩ := htext
  refine ⟨encodeUtf8 rest, ?_⟩
  rw [Record.line, hrest]
  rfl

theorem Record.not_blank (record : Record) : record.line.all isByteSpace = false := by
  obtain ⟨rest, hrest⟩ := record.exists_line
  rw [hrest]
  rfl

theorem Record.read_line (record : Record) :
    (decodeUtf8 record.line).bind JsonTree.loads = some record.item := by
  rw [Record.line, decodeUtf8_encodeUtf8, Option.bind_some]
  exact JsonTree.loads_rawDumps record.readable

/-! ## The cut -/

theorem nearest_seven_tenths : 0 ≤ Double.nearest (7 / 10) ∧ Double.nearest (7 / 10) ≤ 3 / 4 := by
  refine ⟨Double.nearest_nonneg (by norm_num), ?_⟩
  calc Double.nearest (7 / 10) ≤ Double.nearest (3 / 4) := Double.nearest_mono (by norm_num)
    _ = 3 / 4 := by decide +kernel

/-- A double is within a hundredth of a positive number, and a hundredth. -/
theorem nearest_le_add {x : ℚ} (hx : 0 ≤ x) : Double.nearest x ≤ x + (x / 100 + 1 / 100) / 2 := by
  have herror := (abs_le.1 (Double.abs_nearest_sub_le x)).2
  have hrelative : |x| / 2 ^ 52 ≤ x / 100 := by
    rw [abs_of_nonneg hx]
    exact div_le_div_of_nonneg_left hx (by norm_num) (by norm_num)
  have habsolute : (1 : ℚ) / 2 ^ 1074 ≤ 1 / 100 :=
    one_div_le_one_div_of_le (by norm_num) (by
      calc (100 : ℚ) ≤ 2 ^ 7 := by norm_num
        _ ≤ 2 ^ 1074 := pow_le_pow_right₀ (by norm_num) (by norm_num))
  generalize (1 : ℚ) / 2 ^ 1074 = tiny at herror habsolute
  linarith

theorem nearest_nonpos {x : ℚ} (hx : x ≤ 0) : Double.nearest x ≤ 0 := by
  have hneg := Double.nearest_nonneg (neg_nonneg.2 hx)
  rw [Double.nearest_neg] at hneg
  linarith

theorem keepBytes_le {logger : AuditLogger} {keep : ℤ} (h : logger.keepBytes = some keep)
    (hpos : 0 < keep) : keep ≤ logger.maxBytes := by
  obtain ⟨x, hx, rfl⟩ := Option.map_eq_some_iff.1 h
  have hx' : x = Double.nearest logger.maxBytes := by
    unfold Double.ofInt at hx
    split at hx
    · exact (Option.some.inj hx).symm
    · cases hx
  obtain ⟨hfactor, hfactor'⟩ := nearest_seven_tenths
  generalize hr : Double.nearest (7 / 10) = r at *
  rcases le_or_gt logger.maxBytes 0 with hle | hgt
  · -- a negative bound keeps nothing
    have hxle : x ≤ 0 := hx' ▸ nearest_nonpos (by exact_mod_cast hle)
    have hproduct : Double.mul x r ≤ 0 :=
      nearest_nonpos (mul_nonpos_of_nonpos_of_nonneg hxle hfactor)
    have htrunc : Double.trunc (Double.mul x r) ≤ 0 := by
      unfold Double.trunc
      split
      · exact Int.floor_le_floor hproduct |>.trans (by simp)
      · exact Int.ceil_le.2 (by simpa using hproduct)
    omega
  · have hone : (1 : ℚ) ≤ logger.maxBytes := by exact_mod_cast hgt
    have hxnonneg : 0 ≤ x := hx' ▸ Double.nearest_nonneg (by linarith)
    have hxle : x ≤ logger.maxBytes + (logger.maxBytes / 100 + 1 / 100) / 2 :=
      hx' ▸ nearest_le_add (by linarith)
    have hproduct : x * r ≤ x * (3 / 4) := mul_le_mul_of_nonneg_left hfactor' hxnonneg
    have hnonneg : 0 ≤ x * r := mul_nonneg hxnonneg hfactor
    have hround : Double.mul x r ≤ x * r + (x * r / 100 + 1 / 100) / 2 := nearest_le_add hnonneg
    have hle : Double.mul x r ≤ logger.maxBytes := by linarith
    have htrunc : Double.trunc (Double.mul x r) = ⌊Double.mul x r⌋ :=
      if_pos (Double.nearest_nonneg hnonneg)
    rw [htrunc]
    exact_mod_cast (Int.floor_le _).trans hle

/-- The record fits: the file is not cut, or the bytes that are kept are more than its own. -/
def Fits (logger : AuditLogger) (s : State) (record : Record) : Prop :=
  ((s.file ++ record.payload).length : ℤ) ≤ logger.maxBytes ∨
    ∀ keep, logger.keepBytes = some keep → (record.payload.length : ℤ) < keep

/-- The file holds the last records of the log, as whole lines. -/
structure Holds (s : State) (kept : List Record) : Prop where
  suffix : kept <:+ s.log
  file_eq : s.file = join (kept.map Record.line)

theorem join_concat (kept : List Record) (record : Record) :
    join ((kept ++ [record]).map Record.line) = join (kept.map Record.line) ++ record.payload := by
  rw [List.map_append, join_append]
  simp [join, Record.payload]

theorem suffix_concat {kept log : List Record} (h : kept <:+ log) (record : Record) :
    kept ++ [record] <:+ log ++ [record] := by
  obtain ⟨front, rfl⟩ := h
  exact ⟨front, (List.append_assoc front kept [record]).symm⟩

theorem one_le_length_payload (record : Record) : 1 ≤ record.payload.length := by
  rw [Record.payload, List.length_append, List.length_singleton]
  omega

theorem Holds.step {logger : AuditLogger} (henabled : logger.enabled = true) {s : State}
    {kept : List Record} (h : Holds s kept) {record : Record} (hfits : Fits logger s record) :
    ∃ kept', kept' ≠ [] ∧ Holds (logger.step s record) kept' := by
  have hwhole : Holds ⟨s.file ++ record.payload, s.log ++ [record]⟩ (kept ++ [record]) :=
    ⟨suffix_concat h.suffix record, by rw [join_concat, h.file_eq]⟩
  have hstep : (logger.step s record).file = logger.maybeCompact (s.file ++ record.payload) := by
    rw [AuditLogger.step, AuditLogger.append, if_pos henabled]
  have hlog : (logger.step s record).log = s.log ++ [record] := rfl
  have huncut : (logger.step s record).file = s.file ++ record.payload →
      ∃ kept', kept' ≠ [] ∧ Holds (logger.step s record) kept' := by
    intro heq
    exact ⟨kept ++ [record], by simp, hlog ▸ hwhole.suffix, heq.trans hwhole.file_eq⟩
  by_cases hsmall : ((s.file ++ record.payload).length : ℤ) ≤ logger.maxBytes
  · exact huncut (by rw [hstep, AuditLogger.maybeCompact, if_pos hsmall])
  · cases hkeep : logger.keepBytes with
    | none => exact huncut (by rw [hstep, AuditLogger.maybeCompact, if_neg hsmall, hkeep])
    | some keep =>
      have hmore : (record.payload.length : ℤ) < keep := hfits.resolve_left hsmall keep hkeep
      have hone := one_le_length_payload record
      have hle := keepBytes_le hkeep (by omega)
      -- the bytes that are kept begin in the records before this one
      have hlen : ((s.file ++ record.payload).length : ℤ)
          = (join (kept.map Record.line)).length + record.payload.length := by
        rw [h.file_eq, List.length_append]
        push_cast
        rfl
      generalize hcut : (max 0 (((s.file ++ record.payload).length : ℤ) - keep)).toNat = cut
      have hin : cut < (join (kept.map Record.line)).length := by omega
      obtain ⟨lines, hlines, hbehind⟩ := exists_behindFirst isLine_of_mem_lines hin
      obtain ⟨front, hfront⟩ := hlines
      have hmap : lines = (kept.drop front.length).map Record.line := by
        rw [List.map_drop, ← hfront, List.drop_left]
      refine ⟨kept.drop front.length ++ [record], by simp, ?_, ?_⟩
      · exact suffix_concat ((List.drop_suffix _ _).trans h.suffix) record
      · rw [hstep, AuditLogger.maybeCompact, if_neg hsmall, hkeep, join_concat, ← hmap]
        dsimp only
        rw [hcut, ← hbehind, h.file_eq, List.drop_append_of_le_length hin.le]

theorem file_eq_nil_of_not_fits {logger : AuditLogger} (henabled : logger.enabled = true)
    {s : State} {record : Record} (hfits : ¬ Fits logger s record) :
    (logger.step s record).file = [] := by
  simp only [Fits, not_or, not_forall, not_lt] at hfits
  obtain ⟨hlarge, keep, hkeep, hless⟩ := hfits
  rw [AuditLogger.step, AuditLogger.append, if_pos henabled, AuditLogger.maybeCompact,
    if_neg hlarge, hkeep]
  have hstart : s.file.length
      ≤ (max 0 (((s.file ++ record.payload).length : ℤ) - keep)).toNat := by
    rw [List.length_append]
    push_cast
    omega
  dsimp only
  rw [List.drop_append, List.drop_eq_nil_of_le hstart, List.nil_append, Record.payload]
  exact behindFirst_last (notMem_of_isLine record.isLine_line) _

/-! ## Reading from the end -/

/-- What has been read is a suffix of the file: all of it, or one with more line feeds than lines
are asked for, or one beyond the bound. -/
theorem exists_readBack (file : List Byte) (limit : ℕ) (pos : ℕ) (data : List Byte)
    (hdata : data = file.drop pos) (hpos : pos ≤ file.length) :
    ∃ n ≤ file.length, readBack file limit pos data = file.drop n ∧
      (n = 0 ∨ limit < (file.drop n).count 10 ∨ 5000000 < (file.drop n).length) := by
  fun_induction readBack file limit pos data with
  | case1 pos data h =>
    refine ⟨pos, hpos, hdata, ?_⟩
    rcases h with h | h
    · exact .inl h
    · exact .inr (.inl (hdata ▸ h))
  | case2 pos data h size data' hlong =>
    have hdata' : data' = file.drop (pos - size) := by
      have hback : pos - size + size = pos := by omega
      show (file.drop (pos - size)).take size ++ data = _
      rw [hdata, ← hback, ← List.drop_drop, Nat.add_sub_cancel, List.take_append_drop]
    exact ⟨pos - size, by omega, hdata', .inr (.inr (hdata' ▸ hlong))⟩
  | case3 pos data h size data' hshort ih =>
    have hdata' : data' = file.drop (pos - size) := by
      have hback : pos - size + size = pos := by omega
      show (file.drop (pos - size)).take size ++ data = _
      rw [hdata, ← hback, ← List.drop_drop, Nat.add_sub_cancel, List.take_append_drop]
    exact ih hdata' (by omega)

/-- A suffix with more line feeds than lines are asked for holds these lines. -/
theorem length_lastN_le {lines : List (List Byte)} (h : ∀ line ∈ lines, IsLine line)
    {limit n : ℕ} (hcount : limit < ((join lines).drop n).count 10) :
    (join (lastN limit lines)).length ≤ ((join lines).drop n).length := by
  by_contra hshort
  have hsplit : join lines
      = join (lines.take (lines.length - limit)) ++ join (lastN limit lines) := by
    rw [← join_append, lastN, List.take_append_drop]
  have hsuffix : (join lines).drop n <:+ join (lastN limit lines) :=
    List.suffix_of_suffix_length_le (List.drop_suffix n _) ⟨_, hsplit.symm⟩ (by omega)
  have hlast : ∀ line ∈ lastN limit lines, IsLine line := fun line hline =>
    h line (List.mem_of_mem_drop hline)
  have hle := hsuffix.sublist.count_le 10
  rw [count_join hlast, lastN, List.length_drop] at hle
  omega

/-- **The last records of a file of records are read from its end**, wherever the chunks begin, as
long as they stay within the bound. -/
theorem tailBytes_join (records : List Record) (limit : ℕ)
    (hsize : (join ((lastN limit records).map Record.line)).length ≤ 5000000) :
    tailBytes (join (records.map Record.line)) limit
      = (lastN limit records).map Record.item := by
  have hlines := @isLine_of_mem_lines records
  have hmap : lastN limit (records.map Record.line) = (lastN limit records).map Record.line := by
    rw [lastN, lastN, List.length_map, List.map_drop]
  obtain ⟨n, hn, hread, hwhy⟩ := exists_readBack (join (records.map Record.line)) limit
    (join (records.map Record.line)).length [] (by rw [List.drop_length]) le_rfl
  have hlong : (join (lastN limit (records.map Record.line))).length
      ≤ ((join (records.map Record.line)).drop n).length := by
    rcases hwhy with rfl | hcount | hbound
    · have hsub : lastN limit (records.map Record.line) <:+ records.map Record.line :=
        List.drop_suffix _ _
      obtain ⟨front, hfront⟩ := hsub
      rw [List.drop_zero, ← hfront, join_append, List.length_append, hfront]
      omega
    · exact length_lastN_le hlines hcount
    · rw [hmap]
      omega
  obtain ⟨front, hsplit, hfront⟩ := exists_splitLines_drop hlines hn hlong
  have hkept : ((lastN limit records).map Record.line).filter
      (fun line => !line.all isByteSpace) = (lastN limit records).map Record.line := by
    refine List.filter_eq_self.2 fun line hline => ?_
    obtain ⟨record, -, rfl⟩ := List.mem_map.1 hline
    rw [record.not_blank]
    rfl
  have hlast : lastN limit (((front ++ (lastN limit records).map Record.line)).filter
      fun line => !line.all isByteSpace) = (lastN limit records).map Record.line := by
    rw [List.filter_append, hkept]
    by_cases hle : records.length ≤ limit
    · rw [hfront (by rwa [List.length_map]), List.filter_nil, List.nil_append]
      refine lastN_of_length_le ?_
      rw [List.length_map, lastN, List.length_drop]
      omega
    · refine lastN_append _ ?_
      rw [List.length_map, lastN, List.length_drop]
      omega
  unfold tailBytes
  dsimp only
  rw [hread, hsplit, hmap, hlast, List.filterMap_map]
  exact List.filterMap_eq_map_iff_forall_eq_some.2 fun record _ => record.read_line

/-! ## Every run -/

/-- Nothing was appended, or the file is a non-empty suffix of the records, of which the last ones
are read back. -/
def Good (logger : AuditLogger) (s : State) : Prop :=
  s.log = [] ∨ ∃ kept, kept ≠ [] ∧ Holds s kept ∧ ∀ limit : ℤ, 1 ≤ limit → limit ≤ 5000 →
    (join ((lastN limit.toNat kept).map Record.line)).length ≤ 5000000 →
      logger.tail limit s.file = (lastN limit.toNat kept).map Record.item

/-- **The log over a whole run**: after every append the file is a suffix of the records with the
newest in it, and its last records are read back, exactly when every record fits. -/
theorem audit_log_run (maxBytes : ℤ) (records : List Record) :
    let logger : AuditLogger := ⟨maxBytes, true⟩
    (∀ reached, reached <+: records →
        Good logger (Runs.run logger.step State.start reached)) ↔
      Runs.AllSteps logger.step (Fits logger) State.start records := by
  intro logger
  refine @Runs.reached_iff _ _ _ (fun _ _ => True) (Fits logger)
    (fun s => ∃ kept, Holds s kept ∧ (s.log ≠ [] → kept ≠ [])) (Good logger) ?_ ?_ ?_ _ ?_ _
    (Runs.allSteps_of_forall (fun _ _ => trivial) _ _)
  · rintro s ⟨kept, hholds, hne⟩
    by_cases hlog : s.log = []
    · exact .inl hlog
    · refine .inr ⟨kept, hne hlog, hholds, fun limit hlow hhigh hsize => ?_⟩
      have hlimit : max 1 (min 5000 limit) = limit := by omega
      rw [AuditLogger.tail, if_pos rfl, hlimit, hholds.file_eq]
      exact tailBytes_join kept limit.toNat hsize
  · rintro s record ⟨kept, hholds, -⟩ - hfits
    obtain ⟨kept', hne, hholds'⟩ := hholds.step rfl hfits
    exact ⟨kept', hholds', fun _ => hne⟩
  · rintro s record - - hgood
    by_contra hfits
    have hempty : (logger.step s record).file = [] := file_eq_nil_of_not_fits rfl hfits
    rcases hgood with hlog | ⟨kept, hne, hholds, -⟩
    · exact absurd hlog (by simp [AuditLogger.step])
    · have hnil := join_eq_nil (hholds.file_eq.symm.trans hempty)
      exact hne (List.map_eq_nil_iff.1 hnil)
  · exact ⟨[], ⟨List.suffix_refl _, rfl⟩, fun h => absurd rfl h⟩

/-! ## A record that is lost -/

theorem readable_trade : (Call.item ⟨1, "trade_executed".toList, Dict.empty⟩).Readable := by
  refine ⟨by decide, ?_, trivial, trivial⟩
  show JsonTree.isJsonWord (pyDecimal 1) = true
  decide

/-- `{"ts":1,"event":"trade_executed"}` -/
def tradeRecord : Record := ⟨⟨1, "trade_executed".toList, Dict.empty⟩, readable_trade⟩

/-- A record of 34 bytes in a file of thirty: the cut keeps its last 21 bytes, and of these only
what stands behind the line feed, which is nothing. -/
theorem newest_record_lost :
    let logger : AuditLogger := ⟨30, true⟩
    (logger.step State.start tradeRecord).log = [tradeRecord] ∧
      (logger.step State.start tradeRecord).file = [] := by
  refine ⟨rfl, ?_⟩
  decide +kernel

end SovereignCapital.Audit
