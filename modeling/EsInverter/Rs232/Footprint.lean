import EsInverter.Lib.Footed
import EsInverter.Lib.Layout
import EsInverter.SerialClient.Link

/-!
# What the sub-parsers access

The sub-parsers once more, with every byte of the packet that they read, every write
to a local array or to a response, and every array that they hand to a function for
strings.  Without the accesses they are the sub-parsers themselves.
-/

set_option autoImplicit false

namespace EsInverter.Rs232

open Lib SerialClient

/-- Some bytes of an array or of a structure. -/
structure Region where
  capacity : Nat
  offset : Nat
  count : Nat
  deriving DecidableEq, Repr

def Region.Inside (region : Region) : Prop := region.offset + region.count ≤ region.capacity

instance (region : Region) : Decidable region.Inside :=
  inferInstanceAs (Decidable (_ + _ ≤ _))

inductive Access
  /-- A byte at a position of the packet. -/
  | read (position : Nat)
  | write (region : Region)
  /-- An array for `atoi` or `strtoull`. -/
  | text (array : List UInt8)
  deriving DecidableEq, Repr

/-- The two bytes of the checksum behind the packet are zeroed and may be read. -/
def Access.Inside (packetLen : Nat) : Access → Prop
  | read position => position < packetLen + 2
  | write region => region.Inside
  | text array => 0 ∈ array

instance (packetLen : Nat) : DecidablePred (Access.Inside packetLen)
  | .read position => inferInstanceAs (Decidable (position < _))
  | .write region => inferInstanceAs (Decidable region.Inside)
  | .text array => inferInstanceAs (Decidable (0 ∈ array))

namespace Footprint

abbrev Reader (ρ : Type) := List UInt8 → ρ → Footed Access (Except Fault (Int × ρ))

def readByte (packet : List UInt8) (position : Nat) : Footed Access UInt8 := do
  Footed.touch (.read position)
  pure (byteAt packet position)

/-- The source of a `memcpy`, or what a loop over the packet reads. -/
def readRange (packet : List UInt8) (start count : Nat) : Footed Access (List UInt8) :=
  Footed.forEach (List.range' start count) (readByte packet)

/-- Bytes from a position up to a `NUL`, which is the first byte of the checksum at the latest. -/
def readString : List UInt8 → Nat → Footed Access (List UInt8)
  | [], position => do
      Footed.touch (.read position)
      pure []
  | byte :: rest, position => do
      Footed.touch (.read position)
      if byte = 0 then pure []
      else do
        let later ← readString rest (position + 1)
        pure (byte :: later)

def write (capacity offset count : Nat) : Footed Access Unit :=
  Footed.touch (.write ⟨capacity, offset, count⟩)

/-! ### The responses as structures -/

def floats (count : Nat) : Layout := List.replicate count Member.uint32

def qidLayout : Layout :=
  [.uint8, .uint8, .uint8, .uint8, .uint8s 3, .uint8s 3, .uint8s 6]

/-- Seven `float` and three `int` members. -/
def qpiriLayout : Layout := floats 10

def qflagLayout : Layout := .uint16 :: List.replicate 9 Member.uint8

/-- Eight `float` and nine `int` members before the bytes. -/
def qpigsLayout : Layout := floats 17 ++ [.uint16, .uint8, .uint8, .uint8]

def wordLayout : Layout := [.uint32]

def longLayout : Layout := [.uint64]

/-- A number of bytes of a member. -/
def member (layout : Layout) (index count : Nat) : Region :=
  ⟨layout.size, layout.offsetOf index, count⟩

/-- `%f`, `%d`, `%ld`, `%lu` and `%lx` store four bytes each. -/
def members (layout : Layout) : List Region :=
  (List.range layout.length).map fun index => member layout index 4

example : qpigsLayout.size = 76 := by decide

/-! ### The sub-parsers -/

section

variable {ρ : Type}

def ofLength (msgLen : Nat) (parse : Reader ρ) : Reader ρ := fun packet response =>
  if packet.length ≠ msgLen then pure (.ok (-1, response)) else parse packet response

def ofMinLength (minMsgLen : Nat) (parse : Reader ρ) : Reader ρ := fun packet response =>
  if packet.length < minMsgLen then pure (.ok (-1, response)) else parse packet response

/-- `sscanf` stores to the arguments of the directives that it assigns. -/
def scan (arguments : List Region) (format : List (Directive ρ)) (packet : List UInt8)
    (stored : ρ) : Footed Access (Nat × ρ) := do
  let text ← readString packet 0
  let assigned := sscanfFrom format text stored
  Footed.touchAll ((arguments.take assigned.1).map .write)
  pure assigned

def scanned (arguments : List Region) (format : List (Directive ρ)) : Reader ρ :=
  fun packet response => do
    let (parsed, response) ← scan arguments format packet response
    pure (if parsed ≠ format.length then .ok (-2, response) else .ok (0, response))

end

def parseRspIsNak (packet : List UInt8) : Footed Access Bool :=
  if packet.length < 3 then pure false
  else do
    let start ← readRange packet 0 3
    pure (start == nak)

def parseRspQpi : Reader UInt32 := ofMinLength 4 fun packet protocolId => do
  let start ← readRange packet 0 2
  if start ≠ [80, 73] then pure (.ok (-2, protocolId))
  else do
    let protocolIdStr ← readRange packet 2 2
    write 2 0 2
    Footed.touch (.text protocolIdStr)
    match atoi protocolIdStr with
    | none => pure (.error .outOfBounds)
    | some number => do
        Footed.touch (.write (member wordLayout 0 4))
        pure (if number.toUInt32 > 99 then .ok (-3, number.toUInt32)
          else .ok (0, number.toUInt32))

def parseRspQid : Reader QidResponse := ofLength 14 fun packet response => do
  let types ← readRange packet 1 4
  Footed.touchAll ((List.range 4).map fun index => .write (member qidLayout index 1))
  let year ← readRange packet 5 2
  Footed.touch (.write (member qidLayout 4 (year ++ [0]).length))
  let month ← readRange packet 7 2
  Footed.touch (.write (member qidLayout 5 (month ++ [0]).length))
  -- The precision of "%.*s" is five.
  let manufacturerId ← readRange packet 9 5
  Footed.touch (.write (member qidLayout 6 (cString manufacturerId ++ [0]).length))
  pure (.ok (0, {
    mainProductionType := types.getD 0 0
    subProductionType := types.getD 1 0
    vaType := types.getD 2 0
    hlvType := types.getD 3 0
    year := printInto response.year (year ++ [0])
    month := printInto response.month (month ++ [0])
    manufacturerId := printInto response.manufacturerId (cString manufacturerId ++ [0]) }))

def parseRspQvfw : Reader UInt64 := fun packet _ => do
  Footed.touch (.write (member longLayout 0 8))
  ofLength 14 (fun packet _ => do
    let version ← readRange packet 6 5
    write 10 0 5
    Footed.touch (.text (version ++ List.replicate 5 0))
    let subversion ← readRange packet 12 2
    write 10 5 2
    Footed.touch (.text (subversion ++ List.replicate 3 0))
    let major := strtoull (version ++ List.replicate 5 0) <<< 8
    let minor := strtoull (subversion ++ List.replicate 3 0)
    Footed.touch (.write (member longLayout 0 8))
    pure (.ok (0, major ||| minor.toUInt8.toUInt64))) packet 0

/-- The model is copied to the output object itself. -/
def parseRspQmd : Reader (List UInt8) := ofMinLength 15 fun packet model => do
  let text ← readRange packet 1 15
  write maxPacketLen 0 15
  write maxPacketLen 15 1
  pure (.ok (0, printInto model (text ++ [0])))

def parseRspQpiri : Reader QpiriResponse := ofLength 46 <| scanned (members qpiriLayout)
  [
    scanFloat (some 5) fun v r => { r with gridRatingVoltage := v },
    scanFloat (some 4) fun v r => { r with gridRatingFrequency := v },
    scanFloat (some 5) fun v r => { r with gridRatingCurrent := v },
    scanFloat (some 5) fun v r => { r with acOutputRatingVoltage := v },
    scanFloat (some 5) fun v r => { r with acOutputRatingCurrent := v },
    scanFloat (some 4) fun v r => { r with perMpptRatingCurrent := v },
    scanFloat (some 5) fun v r => { r with batteryRatingVoltage := v },
    scanLong (some 1) fun v r => { r with mpptTrackNumber := v },
    scanLong (some 2) fun v r => { r with machineType := v },
    scanLong (some 1) fun v r => { r with topology := v }]

/-- The arguments of `parse_rsp_qpigs`, in the order of its format; two are local variables. -/
def qpigsArguments : List Region :=
  [0, 1, 2, 3, 5, 4, 6, 7, 8, 9, 12, 13, 14, 15, 11, 10].map (member qpigsLayout · 4) ++
    [⟨4, 0, 4⟩, member qpigsLayout 18 1, member qpigsLayout 19 1, member qpigsLayout 16 4,
      ⟨4, 0, 4⟩]

def parseRspQpigs : Reader QpigsResponse := ofMinLength 106 fun packet response => do
  let (_, ⟨response, status1, status2⟩) ← scan qpigsArguments qpigsFormat packet ⟨response, 0, 0⟩
  Footed.touch (.write (member qpigsLayout 17 2))
  Footed.touch (.write (member qpigsLayout 20 1))
  pure (.ok (0, { response with
    deviceStatus1 := response.deviceStatus1 ||| (statusBits status1).toUInt16
    deviceStatus2 := response.deviceStatus2 ||| (statusBits status2).toUInt8 }))

/-- The letters of the flags, in the order of the members. -/
def flagLetters : List UInt8 := [65, 66, 74, 75, 85, 86, 88, 89, 90]

def qflagLoop : List UInt8 → Nat → Bool → QflagResponse → Footed Access (Int × QflagResponse)
  | [], _, _, response => pure (if response.presence ≠ 0x1FF then (-4, response) else (0, response))
  | byte :: rest, position, enable, response => do
      Footed.touch (.read position)
      if byte = 69 then qflagLoop rest (position + 1) true response
      else if byte = 68 then qflagLoop rest (position + 1) false response
      else
        match qflagLetter byte enable response with
        | none => pure (-3, response)
        | some response => do
            Footed.touch (.write (member qflagLayout (flagLetters.idxOf byte + 1) 1))
            Footed.touch (.write (member qflagLayout 0 2))
            qflagLoop rest (position + 1) enable response

def parseRspQflag : Reader QflagResponse := ofLength 11 fun packet response => do
  let first ← readByte packet 0
  if first ≠ 69 ∧ first ≠ 68 then pure (.ok (-2, response))
  else do
    let looped ← qflagLoop packet 0 false response
    pure (.ok looped)

def parseRspQmod : Reader UInt32 := ofLength 1 fun packet _ => do
  let mode ← readByte packet 0
  Footed.touch (.write (member wordLayout 0 4))
  pure (.ok (0, mode.toUInt32))

def parseRspQgov : Reader HiloVoltageResponse :=
  ofMinLength 11 (scanned (members (floats 2)) hiloVoltage)

def parseRspQgof : Reader QgofResponse := ofMinLength 9 <| scanned (members (floats 2))
  [
    scanFloat none fun v r => { r with highFrequency := v },
    scanFloat none fun v r => { r with lowFrequency := v }]

def parseRspQpiws : Reader UInt64 := fun packet _ => do
  Footed.touch (.write (member longLayout 0 8))
  let flags ← readRange packet 0 (min packet.length 64)
  pure (.ok (0, flags.foldl warningStep 0))

def parseRspQpicf : Reader UInt32 := ofLength 4 fun packet _ => do
  Footed.touch (.write (member wordLayout 0 4))
  let fault ← readRange packet 0 packet.length
  pure (.ok (0, fault.foldl faultStep 0))

/-- `strdec2int` on the rest of its text. -/
def strdec2intFrom : List UInt8 → Nat → Int32 → Footed Access (Int × Int32)
  | [], _, out => pure (0, out)
  | byte :: rest, position, out => do
      Footed.touch (.read position)
      if (byte < 48 ∨ byte > 57) ∧ byte ≠ 45 then pure (-1, out)
      else do
        Footed.touch (.write (member wordLayout 0 4))
        strdec2intFrom rest (position + 1) (out * 10 + (Int32.ofNat byte.toNat - 48))

def parseRspQopmp : Reader Int32 := ofMinLength 5 fun packet _ => do
  Footed.touch (.write (member wordLayout 0 4))
  let converted ← strdec2intFrom packet 0 0
  pure (.ok converted)

def parseRspQmpptv : Reader HiloVoltageResponse :=
  ofMinLength 7 (scanned (members (floats 2)) hiloVoltage)

def parseRspQpvipv : Reader HiloVoltageResponse :=
  ofMinLength 7 (scanned (members (floats 2)) hiloVoltage)

def parseRspQlst : Reader UInt32 := ofMinLength 2 fun packet _ => do
  let text ← readRange packet 0 (packet.length - 1)
  write 3 0 (packet.length - 1)
  if packet.length - 1 > 3 then pure (.error .outOfBounds)
  else do
    let buffer := printInto [0, 0, 0] text
    Footed.touch (.text buffer)
    match atoi buffer with
    | none => pure (.error .outOfBounds)
    | some number => do
        Footed.touch (.write (member wordLayout 0 4))
        pure (.ok (0, number.toUInt32))

def parseRspQtpr : Reader QtprResponse := ofMinLength 17 <| scanned (members (floats 3))
  [
    scanFloat none fun v r => { r with boostTemp := v },
    scanFloat none fun v r => { r with inverterTemp := v },
    scanFloat none fun v r => { r with innerTemp := v }]

def parseRspQdi2 : Reader Qdi2Response := ofMinLength 13 <| scanned (members (floats 3))
  [
    scanFloat none fun v r => { r with maxCurrent := v },
    scanFloat none fun v r => { r with maxVoltage := v },
    scanUnsigned 10 fun v r => { r with waitTime := v }]

def parseRspQgltv : Reader HiloVoltageResponse :=
  ofLength 7 (scanned (members (floats 2)) hiloVoltage)

def parseRspQdm : Reader UInt32 := ofLength 3 <| scanned (members wordLayout)
  [scanLong none fun v _ => v.toUInt32]

/-- `temp` is as long as the packet. -/
def parseRspQpihf : Reader UInt32 := fun packet _ => do
  let _ ← readRange packet 0 packet.length
  write packet.length 0 packet.length
  write packet.length packet.length 1
  pure (.error .outOfBounds)

def parseRspQchgs : Reader QchgsResponse := ofLength 20 <| scanned (members (floats 4))
  [
    scanFloat none fun v r => { r with chargingCurrent := v },
    scanFloat none fun v r => { r with floatingVoltage := v },
    scanFloat none fun v r => { r with maxCurrent := v },
    scanFloat none fun v r => { r with bulkVoltage := v }]

/-! ### The `switch` -/

def castTo {ρ : Type} [DecidableEq ρ] (view : Payload → ρ) (wrap : ρ → Payload)
    (parse : Reader ρ) : Reader Payload := fun packet output => do
  let parsed ← parse packet (view output)
  pure (match parsed with
    | .error fault => .error fault
    | .ok (code, response) =>
        .ok (code, if response = view output then output else wrap response))

def subParser : Cmd → Reader Payload
  | .qpi => castTo Payload.asWord .word parseRspQpi
  | .qid => castTo Payload.asQid .qid parseRspQid
  | .qvfw | .qvfw2 | .qvfw3 => castTo Payload.asLong .long parseRspQvfw
  | .qpiri => castTo Payload.asQpiri .qpiri parseRspQpiri
  | .qmd => castTo Payload.asModel .model parseRspQmd
  | .qflag => castTo Payload.asQflag .qflag parseRspQflag
  | .qpigs => castTo Payload.asQpigs .qpigs parseRspQpigs
  | .qmod => castTo Payload.asWord .word parseRspQmod
  | .qgov => castTo Payload.asHilo .hilo parseRspQgov
  | .qgof => castTo Payload.asQgof .qgof parseRspQgof
  | .qopmp => castTo Payload.asInt .int parseRspQopmp
  | .qmpptv => castTo Payload.asHilo .hilo parseRspQmpptv
  | .qpvipv => castTo Payload.asHilo .hilo parseRspQpvipv
  | .qlst => castTo Payload.asWord .word parseRspQlst
  | .qtpr => castTo Payload.asQtpr .qtpr parseRspQtpr
  | .qdi2 => castTo Payload.asQdi2 .qdi2 parseRspQdi2
  | .qgltv => castTo Payload.asHilo .hilo parseRspQgltv
  | .qdm => castTo Payload.asWord .word parseRspQdm
  | .qpihf => castTo Payload.asWord .word parseRspQpihf
  | .qchgs => castTo Payload.asQchgs .qchgs parseRspQchgs
  | .qpicf => castTo Payload.asWord .word parseRspQpicf
  | .qpiws => castTo Payload.asLong .long parseRspQpiws

/-- A rejection is copied to the output object. -/
def judgePacket (rqId : UInt16) (packet dataIn : List UInt8) (output : Payload)
    (processed : Nat) : Footed Access (Except Fault Parsed) := do
  let rejected ← parseRspIsNak packet
  if rejected then do
    let copy ← readRange packet 0 packet.length
    write maxPacketLen 0 packet.length
    pure (.ok { processed, dataIn, output := .rejection copy, err := ParseStatus.rqRejected })
  else
    match Cmd.ofCode? rqId with
    | none => pure (.ok { processed, dataIn, output, err := ParseStatus.noPacket })
    | some cmd => do
        let parsed ← subParser cmd packet output
        pure (match parsed with
          | .error fault => .error fault
          | .ok (code, output) =>
              .ok { processed, dataIn, output, err := UInt16.ofInt code })

/-! ### The results are those of the sub-parsers -/

section

variable {ρ : Type}

/-- Without its accesses the one is the other. -/
def Gives (reader : Reader ρ) (parse : SubParser ρ) : Prop :=
  ∀ packet response, (reader packet response).result = parse packet response

theorem gives_ofLength {reader : Reader ρ} {parse : SubParser ρ} {msgLen : Nat}
    (inner : ∀ packet response, packet.length = msgLen →
      (reader packet response).result = parse packet response) :
    Gives (ofLength msgLen reader) (Rs232.ofLength msgLen parse) := by
  intro packet response
  rw [ofLength, Rs232.ofLength]
  by_cases other : packet.length ≠ msgLen
  · rw [if_pos other, if_pos other]
    rfl
  · rw [if_neg other, if_neg other]
    exact inner packet response (not_not.mp other)

theorem gives_ofMinLength {reader : Reader ρ} {parse : SubParser ρ} {minMsgLen : Nat}
    (inner : ∀ packet response, minMsgLen ≤ packet.length →
      (reader packet response).result = parse packet response) :
    Gives (ofMinLength minMsgLen reader) (Rs232.ofMinLength minMsgLen parse) := by
  intro packet response
  rw [ofMinLength, Rs232.ofMinLength]
  by_cases short : packet.length < minMsgLen
  · rw [if_pos short, if_pos short]
    rfl
  · rw [if_neg short, if_neg short]
    exact inner packet response (not_lt.mp short)

theorem Gives.ofLength {reader : Reader ρ} {parse : SubParser ρ} (inner : Gives reader parse)
    (msgLen : Nat) : Gives (Footprint.ofLength msgLen reader) (Rs232.ofLength msgLen parse) :=
  gives_ofLength fun packet response _ => inner packet response

theorem Gives.ofMinLength {reader : Reader ρ} {parse : SubParser ρ} (inner : Gives reader parse)
    (minMsgLen : Nat) :
    Gives (Footprint.ofMinLength minMsgLen reader) (Rs232.ofMinLength minMsgLen parse) :=
  gives_ofMinLength fun packet response _ => inner packet response

@[simp]
theorem result_readByte (packet : List UInt8) (position : Nat) :
    (readByte packet position).result = byteAt packet position := rfl

theorem result_readRange {packet : List UInt8} {start count : Nat}
    (inside : start + count ≤ packet.length) :
    (readRange packet start count).result = (packet.drop start).take count := by
  rw [readRange, Footed.result_forEach]
  apply List.ext_getElem
  · simp
    omega
  · intro index first second
    rw [List.length_map, List.length_range'] at first
    rw [List.getElem_map, List.getElem_range', result_readByte, byteAt, List.getElem_take,
      List.getElem_drop, List.getD_eq_getElem _ _ (by omega)]
    congr 1
    omega

theorem result_readAll (packet : List UInt8) :
    (readRange packet 0 packet.length).result = packet := by
  rw [result_readRange (by omega), List.drop_zero, List.take_length]

theorem result_readString (packet : List UInt8) (position : Nat) :
    (readString packet position).result = cString packet := by
  induction packet generalizing position with
  | nil => rfl
  | cons byte rest ih =>
      rw [readString, Footed.result_bind, cString, List.takeWhile_cons]
      by_cases ends : byte = 0
      · simp [ends]
      · simp [ends, ih, cString]

theorem result_scan (arguments : List Region) (format : List (Directive ρ))
    (packet : List UInt8) (stored : ρ) :
    (scan arguments format packet stored).result = sscanf format packet stored := by
  rw [scan, Footed.result_bind, result_readString]
  rfl

theorem gives_scanned (arguments : List Region) (format : List (Directive ρ)) :
    Gives (scanned arguments format) (Rs232.scanned format) := by
  intro packet response
  rw [scanned, Footed.result_bind, result_scan, Rs232.scanned]
  rfl

theorem gives_castTo [DecidableEq ρ] {view : Payload → ρ} {wrap : ρ → Payload}
    {reader : Reader ρ} {parse : SubParser ρ} (inner : Gives reader parse) :
    Gives (castTo view wrap reader) (Rs232.castTo view wrap parse) := by
  intro packet output
  rw [castTo, Footed.result_bind, inner, Rs232.castTo]
  rfl

end

theorem result_parseRspIsNak (packet : List UInt8) :
    (parseRspIsNak packet).result = Rs232.parseRspIsNak packet := by
  rw [parseRspIsNak, Rs232.parseRspIsNak]
  by_cases short : packet.length < 3
  · have other : packet.take 3 ≠ nak := by
      intro same
      have size := congrArg List.length same
      rw [List.length_take] at size
      simp [nak] at size
      omega
    rw [if_pos short]
    simpa using other
  · rw [if_neg short, Footed.result_bind, result_readRange (by omega)]
    rfl

theorem gives_parseRspQpi : Gives parseRspQpi Rs232.parseRspQpi := by
  apply gives_ofMinLength
  intro packet protocolId long
  rw [Footed.result_bind, result_readRange (by omega), List.drop_zero]
  by_cases other : packet.take 2 ≠ [80, 73]
  · rw [if_pos other, if_pos other]
    rfl
  · rw [if_neg other, if_neg other, Footed.result_bind, result_readRange (by omega)]
    simp only [Footed.result_bind]
    cases atoi ((packet.drop 2).take 2) with
    | none => rfl
    | some number => rfl

theorem gives_parseRspQid : Gives parseRspQid Rs232.parseRspQid := by
  apply gives_ofLength
  intro packet response long
  have tail : (packet.drop 9).take 5 = packet.drop 9 :=
    List.take_of_length_le (by rw [List.length_drop]; omega)
  simp only [Footed.result_bind, Footed.result_pure]
  rw [@result_readRange packet 9 5 (by omega), tail]
  rfl

/-- Zeros behind a text end it. -/
theorem strtoull_append_zeros (text : List UInt8) (count : Nat) :
    strtoull (text ++ List.replicate count 0) = strtoull text := by
  have same : cString (text ++ List.replicate count 0) = cString text := by
    induction text with
    | nil => cases count <;> simp [cString, List.replicate_succ]
    | cons byte rest ih =>
        rw [cString, List.cons_append, List.takeWhile_cons, cString, List.takeWhile_cons]
        by_cases ends : byte = 0
        · simp [ends]
        · simpa [ends, cString] using ih
  rw [strtoull, strtoull, same]

theorem gives_parseRspQvfw : Gives parseRspQvfw Rs232.parseRspQvfw := by
  intro packet response
  rw [parseRspQvfw, Footed.result_bind, Rs232.parseRspQvfw]
  apply gives_ofLength
  intro packet response long
  simp only [Footed.result_bind, Footed.result_pure]
  rw [@result_readRange packet 6 5 (by omega), @result_readRange packet 12 2 (by omega),
    strtoull_append_zeros, strtoull_append_zeros]

theorem gives_parseRspQmd : Gives parseRspQmd Rs232.parseRspQmd := by
  apply gives_ofMinLength
  intro packet model long
  rfl

theorem gives_parseRspQpigs : Gives parseRspQpigs Rs232.parseRspQpigs := by
  apply gives_ofMinLength
  intro packet response long
  rw [Footed.result_bind, result_scan]
  rfl

theorem result_qflagLoop (packet : List UInt8) (position : Nat) (enable : Bool)
    (response : QflagResponse) :
    (qflagLoop packet position enable response).result =
      Rs232.qflagLoop packet enable response := by
  induction packet generalizing position enable response with
  | nil => rfl
  | cons byte rest ih =>
      rw [qflagLoop, Rs232.qflagLoop, Footed.result_bind]
      split
      · exact ih _ _ _
      · split
        · exact ih _ _ _
        · cases qflagLetter byte enable response with
          | none => rfl
          | some response => exact ih _ _ _

theorem gives_parseRspQflag : Gives parseRspQflag Rs232.parseRspQflag := by
  apply gives_ofLength
  intro packet response long
  rw [Footed.result_bind, result_readByte]
  split
  · rfl
  · rw [Footed.result_bind, result_qflagLoop]
    rfl

theorem gives_parseRspQmod : Gives parseRspQmod Rs232.parseRspQmod := by
  apply gives_ofLength
  intro packet response long
  rfl

theorem gives_parseRspQpiws : Gives parseRspQpiws Rs232.parseRspQpiws := by
  intro packet response
  rw [parseRspQpiws, Footed.result_bind, Footed.result_bind,
    result_readRange (by omega), List.drop_zero, Nat.min_comm, ← List.take_eq_take_min]
  rfl

theorem gives_parseRspQpicf : Gives parseRspQpicf Rs232.parseRspQpicf := by
  apply gives_ofLength
  intro packet response long
  rw [Footed.result_bind, Footed.result_bind, result_readAll]
  rfl

theorem result_strdec2intFrom (data : List UInt8) (position : Nat) (out : Int32) :
    (strdec2intFrom data position out).result = Rs232.strdec2intFrom data out := by
  induction data generalizing position out with
  | nil => rfl
  | cons byte rest ih =>
      rw [strdec2intFrom, Rs232.strdec2intFrom, Footed.result_bind]
      split
      · rfl
      · exact ih _ _

theorem gives_parseRspQopmp : Gives parseRspQopmp Rs232.parseRspQopmp := by
  apply gives_ofMinLength
  intro packet response long
  rw [Footed.result_bind, Footed.result_bind, result_strdec2intFrom]
  rfl

theorem gives_parseRspQlst : Gives parseRspQlst Rs232.parseRspQlst := by
  apply gives_ofMinLength
  intro packet response long
  rw [Footed.result_bind, result_readRange (by omega), Footed.result_bind, List.drop_zero,
    ← List.dropLast_eq_take]
  split
  · rfl
  · simp only [Footed.result_bind]
    cases atoi (printInto [0, 0, 0] packet.dropLast) with
    | none => rfl
    | some number => rfl

theorem gives_parseRspQpihf : Gives parseRspQpihf Rs232.parseRspQpihf := by
  intro packet response
  rfl

theorem gives_subParser (cmd : Cmd) : Gives (subParser cmd) cmd.subParser := by
  cases cmd with
  | qpi => exact gives_castTo gives_parseRspQpi
  | qid => exact gives_castTo gives_parseRspQid
  | qvfw => exact gives_castTo gives_parseRspQvfw
  | qvfw2 => exact gives_castTo gives_parseRspQvfw
  | qvfw3 => exact gives_castTo gives_parseRspQvfw
  | qpiri => exact gives_castTo ((gives_scanned _ _).ofLength 46)
  | qmd => exact gives_castTo gives_parseRspQmd
  | qflag => exact gives_castTo gives_parseRspQflag
  | qpigs => exact gives_castTo gives_parseRspQpigs
  | qmod => exact gives_castTo gives_parseRspQmod
  | qgov => exact gives_castTo ((gives_scanned _ _).ofMinLength 11)
  | qgof => exact gives_castTo ((gives_scanned _ _).ofMinLength 9)
  | qopmp => exact gives_castTo gives_parseRspQopmp
  | qmpptv => exact gives_castTo ((gives_scanned _ _).ofMinLength 7)
  | qpvipv => exact gives_castTo ((gives_scanned _ _).ofMinLength 7)
  | qlst => exact gives_castTo gives_parseRspQlst
  | qtpr => exact gives_castTo ((gives_scanned _ _).ofMinLength 17)
  | qdi2 => exact gives_castTo ((gives_scanned _ _).ofMinLength 13)
  | qgltv => exact gives_castTo ((gives_scanned _ _).ofLength 7)
  | qdm => exact gives_castTo ((gives_scanned _ _).ofLength 3)
  | qpihf => exact gives_castTo gives_parseRspQpihf
  | qchgs => exact gives_castTo ((gives_scanned _ _).ofLength 20)
  | qpicf => exact gives_castTo gives_parseRspQpicf
  | qpiws => exact gives_castTo gives_parseRspQpiws

theorem result_judgePacket (rqId : UInt16) (packet dataIn : List UInt8) (output : Payload)
    (processed : Nat) :
    (judgePacket rqId packet dataIn output processed).result =
      Rs232.judgePacket rqId packet dataIn output processed := by
  rw [judgePacket, Rs232.judgePacket, Footed.result_bind, result_parseRspIsNak]
  split
  · rw [Footed.result_bind, result_readAll]
    rfl
  · cases Cmd.ofCode? rqId with
    | none => rfl
    | some cmd =>
        rw [Footed.result_bind, gives_subParser]
        rfl

end Footprint

end EsInverter.Rs232
