import EsInverter.Fault
import EsInverter.Lib.Scanf

/-!
# Replies of the inverter

One sub-parser for each kind of reply.  It gets the packet without the opening
parenthesis, checksum and carriage return (two zeroed bytes follow the packet)
and the response as it was before, and returns its code and the response as it
is afterwards.
-/

set_option autoImplicit false

namespace EsInverter.Rs232

open Lib

/-! ### Responses -/

structure QidResponse where
  mainProductionType : UInt8
  subProductionType : UInt8
  vaType : UInt8
  hlvType : UInt8
  year : List UInt8
  month : List UInt8
  manufacturerId : List UInt8
  deriving DecidableEq, Repr

structure QpiriResponse where
  gridRatingVoltage : Decimal
  gridRatingFrequency : Decimal
  gridRatingCurrent : Decimal
  acOutputRatingVoltage : Decimal
  acOutputRatingCurrent : Decimal
  perMpptRatingCurrent : Decimal
  batteryRatingVoltage : Decimal
  mpptTrackNumber : Int32
  machineType : Int32
  topology : Int32
  deriving DecidableEq, Repr

structure QflagResponse where
  presence : UInt16
  silenceBuzzer : Bool
  overloadBypass : Bool
  powerSaving : Bool
  lcdDefaultPageTimeout : Bool
  overloadRestart : Bool
  overTemperatureRestart : Bool
  backlightOn : Bool
  alarmOnPrimaryInterrupt : Bool
  faultCodeRecord : Bool
  deriving DecidableEq, Repr

structure QpigsResponse where
  gridVoltage : Decimal
  gridFrequency : Decimal
  acOutputVoltage : Decimal
  acOutputFrequency : Decimal
  acOutputActivePower : Int32
  acOutputAppearentPower : Int32
  outputLoadPercent : Int32
  busVoltage : Int32
  batteryVoltage : Decimal
  batteryChargingCurrent : Int32
  batteryDischargingCurrent : Int32
  batteryVoltageFromScc : Decimal
  batteryCapacity : Int32
  temperature : Int32
  pvInputCurrent : Decimal
  pvInputVoltage : Decimal
  pvInputPower : Int32
  deviceStatus1 : UInt16
  batteryOffset : UInt8
  eepromVersion : UInt8
  deviceStatus2 : UInt8
  deriving DecidableEq, Repr

structure HiloVoltageResponse where
  highVoltage : Int32
  lowVoltage : Int32
  deriving DecidableEq, Repr

structure QgofResponse where
  highFrequency : Decimal
  lowFrequency : Decimal
  deriving DecidableEq, Repr

structure QtprResponse where
  boostTemp : Decimal
  inverterTemp : Decimal
  innerTemp : Decimal
  deriving DecidableEq, Repr

structure Qdi2Response where
  maxCurrent : Decimal
  maxVoltage : Decimal
  waitTime : UInt32
  deriving DecidableEq, Repr

structure QchgsResponse where
  chargingCurrent : Decimal
  floatingVoltage : Decimal
  maxCurrent : Decimal
  bulkVoltage : Decimal
  deriving DecidableEq, Repr

/-! ### What the sub-parsers share -/

abbrev SubParser (ρ : Type) := List UInt8 → ρ → Except Fault (Int × ρ)

section

variable {ρ : Type}

/-- A packet whose length is not the documented one is malformed. -/
def ofLength (msgLen : Nat) (parse : SubParser ρ) : SubParser ρ := fun packet response =>
  if packet.length ≠ msgLen then .ok (-1, response) else parse packet response

def ofMinLength (minMsgLen : Nat) (parse : SubParser ρ) : SubParser ρ := fun packet response =>
  if packet.length < minMsgLen then .ok (-1, response) else parse packet response

/-- All members of the response come from one `sscanf`, which must assign each of them. -/
def scanned (format : List (Directive ρ)) : SubParser ρ := fun packet response =>
  match sscanf format packet response with
  | (parsed, response) => if parsed ≠ format.length then .ok (-2, response) else .ok (0, response)

/-- A sub-parser returns zero or a small negative number. -/
def ReturnsCode (parse : SubParser ρ) : Prop :=
  ∀ packet response code result, parse packet response = .ok (code, result) → -4 ≤ code ∧ code ≤ 0

theorem returnsCode_ofLength {parse : SubParser ρ} (msgLen : Nat) (inner : ReturnsCode parse) :
    ReturnsCode (ofLength msgLen parse) := by
  intro packet response code result parsed
  rw [ofLength] at parsed
  split at parsed
  · cases parsed
    constructor <;> decide
  · exact inner _ _ _ _ parsed

theorem returnsCode_ofMinLength {parse : SubParser ρ} (minMsgLen : Nat)
    (inner : ReturnsCode parse) : ReturnsCode (ofMinLength minMsgLen parse) := by
  intro packet response code result parsed
  rw [ofMinLength] at parsed
  split at parsed
  · cases parsed
    constructor <;> decide
  · exact inner _ _ _ _ parsed

/-- A sub-parser that accepts every packet of the right length. -/
theorem returnsCode_accepting (decode : List UInt8 → ρ → ρ) :
    ReturnsCode fun packet response => .ok (0, decode packet response) := by
  intro packet response code result parsed
  cases parsed
  constructor <;> decide

theorem returnsCode_scanned (format : List (Directive ρ)) : ReturnsCode (scanned format) := by
  intro packet response code result parsed
  rw [scanned] at parsed
  split at parsed
  split at parsed <;> cases parsed <;> constructor <;> decide

end

/-- The byte at a position of the packet or of the zeroed checksum behind it. -/
def byteAt (packet : List UInt8) (position : Nat) : UInt8 := packet.getD position 0

/-- The text written to an array, whose later bytes stay. -/
def printInto (array text : List UInt8) : List UInt8 := text ++ array.drop text.length

/-- A text that does not fill a zeroed array is terminated. -/
theorem zero_mem_printInto {text : List UInt8} {size : Nat} (short : text.length < size) :
    0 ∈ printInto (List.replicate size 0) text := by
  rw [printInto, List.drop_replicate]
  exact List.mem_append_right _ (List.mem_replicate.mpr ⟨by omega, rfl⟩)

/-- A text as long as its array. -/
theorem printInto_full {array text : List UInt8} (size : array.length = text.length) :
    printInto array text = text := by
  rw [printInto, List.drop_of_length_le (Nat.le_of_eq size), List.append_nil]

/-! ### `parse_rsp_is_nak` and the sub-parsers -/

/-- `"NAK"` -/
def nak : List UInt8 := [78, 65, 75]

def parseRspIsNak (packet : List UInt8) : Bool := packet.take 3 == nak

def parseRspQpi : SubParser UInt32 := ofMinLength 4 fun packet protocolId =>
  if packet.take 2 ≠ [80, 73] then .ok (-2, protocolId)
  else
    -- The two bytes fill the array, so that there is no terminator.
    match atoi ((packet.drop 2).take 2) with
    | none => .error .outOfBounds
    | some number =>
        if number.toUInt32 > 99 then .ok (-3, number.toUInt32) else .ok (0, number.toUInt32)

def parseRspQid : SubParser QidResponse := ofLength 14 fun packet response =>
  .ok (0, {
    mainProductionType := byteAt packet 1
    subProductionType := byteAt packet 2
    vaType := byteAt packet 3
    hlvType := byteAt packet 4
    year := printInto response.year [byteAt packet 5, byteAt packet 6, 0]
    month := printInto response.month [byteAt packet 7, byteAt packet 8, 0]
    manufacturerId := printInto response.manufacturerId (cString (packet.drop 9) ++ [0]) })

def parseRspQvfw : SubParser UInt64 := fun packet _ =>
  ofLength 14 (fun packet _ =>
    let major := strtoull ((packet.drop 6).take 5) <<< 8
    let minor := strtoull ((packet.drop 12).take 2)
    .ok (0, major ||| minor.toUInt8.toUInt64)) packet 0

def parseRspQmd : SubParser (List UInt8) := ofMinLength 15 fun packet model =>
  .ok (0, printInto model ((List.range 15).map (fun i => byteAt packet (i + 1)) ++ [0]))

def parseRspQpiri : SubParser QpiriResponse := ofLength 46 <| scanned
  [
    scanFloat (some 5) fun v r => { r with gridRatingVoltage := v },
    scanFloat (some 4) fun v r => { r with gridRatingFrequency := v },
    scanFloat (some 5) fun v r => { r with gridRatingCurrent := v },
    scanFloat (some 5) fun v r => { r with acOutputRatingVoltage := v },
    scanFloat (some 5) fun v r => { r with acOutputRatingCurrent := v },
    scanFloat (some 4) fun v r => { r with perMpptRatingCurrent := v },
    scanFloat (some 5) fun v r => { r with batteryRatingVoltage := v },
    scanLong (some 1) fun v r => { r with mpptTrackNumber := v },
    scanLong (some 2) fun v r => { r with machineType := v },
    scanLong (some 1) fun v r => { r with topology := v }]

/-- What `parse_rsp_qpigs` scans into: the response and its two local variables. -/
structure QpigsScan where
  response : QpigsResponse
  status1 : UInt32
  status2 : UInt32

/-- A directive for a member of the response. -/
def inResponse {value : Type} (store : value → QpigsResponse → QpigsResponse) (v : value)
    (scan : QpigsScan) : QpigsScan := { scan with response := store v scan.response }

def qpigsFormat : List (Directive QpigsScan) :=
  [
    scanFloat none (inResponse fun v r => { r with gridVoltage := v }),
    scanFloat none (inResponse fun v r => { r with gridFrequency := v }),
    scanFloat none (inResponse fun v r => { r with acOutputVoltage := v }),
    scanFloat none (inResponse fun v r => { r with acOutputFrequency := v }),
    scanLong none (inResponse fun v r => { r with acOutputAppearentPower := v }),
    scanLong none (inResponse fun v r => { r with acOutputActivePower := v }),
    scanLong none (inResponse fun v r => { r with outputLoadPercent := v }),
    scanLong none (inResponse fun v r => { r with busVoltage := v }),
    scanFloat none (inResponse fun v r => { r with batteryVoltage := v }),
    scanLong none (inResponse fun v r => { r with batteryChargingCurrent := v }),
    scanLong none (inResponse fun v r => { r with batteryCapacity := v }),
    scanLong none (inResponse fun v r => { r with temperature := v }),
    scanFloat none (inResponse fun v r => { r with pvInputCurrent := v }),
    scanFloat none (inResponse fun v r => { r with pvInputVoltage := v }),
    scanFloat none (inResponse fun v r => { r with batteryVoltageFromScc := v }),
    scanLong none (inResponse fun v r => { r with batteryDischargingCurrent := v }),
    scanUnsigned 16 fun v scan => { scan with status1 := v },
    scanChar (inResponse fun v r => { r with batteryOffset := v }),
    scanChar (inResponse fun v r => { r with eepromVersion := v }),
    scanLong none (inResponse fun v r => { r with pvInputPower := v }),
    scanUnsigned 16 fun v scan => { scan with status2 := v }]

/-- The lowest bit of each hexadecimal digit. -/
def statusBits (status : UInt32) : UInt32 :=
  (List.range 8).foldl (fun bits i =>
    bits ||| (((status >>> UInt32.ofNat (i * 4)) &&& 0x01) <<< UInt32.ofNat i)) 0

/-- A reply with fewer fields than the format has is only logged. -/
def parseRspQpigs : SubParser QpigsResponse := ofMinLength 106 fun packet response =>
  match sscanf qpigsFormat packet ⟨response, 0, 0⟩ with
  | (_, ⟨response, status1, status2⟩) =>
      .ok (0, { response with
        deviceStatus1 := response.deviceStatus1 ||| (statusBits status1).toUInt16
        deviceStatus2 := response.deviceStatus2 ||| (statusBits status2).toUInt8 })

/-- The bit of `presence` that a letter sets and the member it stands for. -/
def qflagLetter (letter : UInt8) (enable : Bool) (r : QflagResponse) : Option QflagResponse :=
  if letter = 65 then some { r with silenceBuzzer := enable, presence := r.presence ||| 0x01 }
  else if letter = 66 then some { r with overloadBypass := enable, presence := r.presence ||| 0x02 }
  else if letter = 74 then some { r with powerSaving := enable, presence := r.presence ||| 0x04 }
  else if letter = 75 then
    some { r with lcdDefaultPageTimeout := enable, presence := r.presence ||| 0x08 }
  else if letter = 85 then some { r with overloadRestart := enable, presence := r.presence ||| 0x10 }
  else if letter = 86 then
    some { r with overTemperatureRestart := enable, presence := r.presence ||| 0x20 }
  else if letter = 88 then some { r with backlightOn := enable, presence := r.presence ||| 0x40 }
  else if letter = 89 then
    some { r with alarmOnPrimaryInterrupt := enable, presence := r.presence ||| 0x80 }
  else if letter = 90 then
    some { r with faultCodeRecord := enable, presence := r.presence ||| 0x100 }
  else none

def qflagLoop : List UInt8 → Bool → QflagResponse → Int × QflagResponse
  | [], _, response => if response.presence ≠ 0x1FF then (-4, response) else (0, response)
  | byte :: rest, enable, response =>
      if byte = 69 then qflagLoop rest true response
      else if byte = 68 then qflagLoop rest false response
      else
        match qflagLetter byte enable response with
        | none => (-3, response)
        | some response => qflagLoop rest enable response

def parseRspQflag : SubParser QflagResponse := ofLength 11 fun packet response =>
  if byteAt packet 0 ≠ 69 ∧ byteAt packet 0 ≠ 68 then .ok (-2, response)
  else .ok (qflagLoop packet false response)

def parseRspQmod : SubParser UInt32 := ofLength 1 fun packet _ =>
  .ok (0, (byteAt packet 0).toUInt32)

def hiloVoltage : List (Directive HiloVoltageResponse) :=
  [
    scanLong none fun v r => { r with highVoltage := v },
    scanLong none fun v r => { r with lowVoltage := v }]

def parseRspQgov : SubParser HiloVoltageResponse := ofMinLength 11 (scanned hiloVoltage)

def parseRspQgof : SubParser QgofResponse := ofMinLength 9 <| scanned
  [
    scanFloat none fun v r => { r with highFrequency := v },
    scanFloat none fun v r => { r with lowFrequency := v }]

/-- One character of the warning flags: a `1` sets the lowest bit, and every character shifts. -/
def warningStep (flags : UInt64) (byte : UInt8) : UInt64 :=
  (if byte = 49 then flags ||| 0x1 else flags) <<< 1

def parseRspQpiws : SubParser UInt64 := fun packet _ =>
  .ok (0, (packet.take 64).foldl warningStep 0)

def faultStep (fault : UInt32) (byte : UInt8) : UInt32 := (fault ||| byte.toUInt32) <<< 8

def parseRspQpicf : SubParser UInt32 := ofLength 4 fun packet _ =>
  .ok (0, packet.foldl faultStep 0)

/-- `strdec2int`, with the number read so far; a minus sign counts as a digit of value -3. -/
def strdec2intFrom : List UInt8 → Int32 → Int × Int32
  | [], out => (0, out)
  | byte :: rest, out =>
      if (byte < 48 ∨ byte > 57) ∧ byte ≠ 45 then (-1, out)
      else strdec2intFrom rest (out * 10 + (Int32.ofNat byte.toNat - 48))

def strdec2int (data : List UInt8) : Int × Int32 := strdec2intFrom data 0

def parseRspQopmp : SubParser Int32 := ofMinLength 5 fun packet _ => .ok (strdec2int packet)

def parseRspQmpptv : SubParser HiloVoltageResponse := ofMinLength 7 (scanned hiloVoltage)

def parseRspQpvipv : SubParser HiloVoltageResponse := ofMinLength 7 (scanned hiloVoltage)

/-- All bytes but the last are copied to an array of three. -/
def parseRspQlst : SubParser UInt32 := ofMinLength 2 fun packet _ =>
  if packet.length - 1 > 3 then .error .outOfBounds
  else
    match atoi (printInto [0, 0, 0] packet.dropLast) with
    | none => .error .outOfBounds
    | some number => .ok (0, number.toUInt32)

def parseRspQtpr : SubParser QtprResponse := ofMinLength 17 <| scanned
  [
    scanFloat none fun v r => { r with boostTemp := v },
    scanFloat none fun v r => { r with inverterTemp := v },
    scanFloat none fun v r => { r with innerTemp := v }]

def parseRspQdi2 : SubParser Qdi2Response := ofMinLength 13 <| scanned
  [
    scanFloat none fun v r => { r with maxCurrent := v },
    scanFloat none fun v r => { r with maxVoltage := v },
    scanUnsigned 10 fun v r => { r with waitTime := v }]

def parseRspQgltv : SubParser HiloVoltageResponse := ofLength 7 (scanned hiloVoltage)

def parseRspQdm : SubParser UInt32 := ofLength 3 <| scanned
  [scanLong none fun v _ => v.toUInt32]

/-- The terminator of the copy is written behind its end. -/
def parseRspQpihf : SubParser UInt32 := fun _ _ => .error .outOfBounds

def parseRspQchgs : SubParser QchgsResponse := ofLength 20 <| scanned
  [
    scanFloat none fun v r => { r with chargingCurrent := v },
    scanFloat none fun v r => { r with floatingVoltage := v },
    scanFloat none fun v r => { r with maxCurrent := v },
    scanFloat none fun v r => { r with bulkVoltage := v }]

/-! ### Codes of the sub-parsers that are not put together from the above -/

theorem returnsCode_parseRspQpi : ReturnsCode parseRspQpi := by
  apply returnsCode_ofMinLength
  intro packet response code result parsed
  beta_reduce at parsed
  split at parsed
  · cases parsed
    constructor <;> decide
  · split at parsed
    · cases parsed
    · split at parsed <;> cases parsed <;> constructor <;> decide

theorem returnsCode_parseRspQvfw : ReturnsCode parseRspQvfw := by
  intro packet response code result parsed
  rw [parseRspQvfw] at parsed
  exact returnsCode_ofLength 14 (returnsCode_accepting _) packet 0 code result parsed

theorem returnsCode_parseRspQpigs : ReturnsCode parseRspQpigs := by
  apply returnsCode_ofMinLength
  intro packet response code result parsed
  cases parsed
  constructor <;> decide

theorem qflagLoop_code (packet : List UInt8) (enable : Bool) (response : QflagResponse) :
    -4 ≤ (qflagLoop packet enable response).1 ∧ (qflagLoop packet enable response).1 ≤ 0 := by
  induction packet generalizing enable response with
  | nil =>
      rw [qflagLoop]
      split <;> constructor <;> simp
  | cons byte rest ih =>
      rw [qflagLoop]
      split
      · exact ih true response
      · split
        · exact ih false response
        · cases qflagLetter byte enable response with
          | none => constructor <;> simp
          | some response => exact ih enable response

theorem returnsCode_parseRspQflag : ReturnsCode parseRspQflag := by
  apply returnsCode_ofLength
  intro packet response code result parsed
  beta_reduce at parsed
  split at parsed
  · cases parsed
    constructor <;> decide
  · have looped : qflagLoop packet false response = (code, result) := Except.ok.inj parsed
    simpa [looped] using qflagLoop_code packet false response

theorem strdec2intFrom_code (data : List UInt8) (out : Int32) :
    -4 ≤ (strdec2intFrom data out).1 ∧ (strdec2intFrom data out).1 ≤ 0 := by
  induction data generalizing out with
  | nil => constructor <;> simp [strdec2intFrom]
  | cons byte rest ih =>
      rw [strdec2intFrom]
      split
      · constructor <;> simp
      · exact ih _

theorem returnsCode_parseRspQopmp : ReturnsCode parseRspQopmp := by
  apply returnsCode_ofMinLength
  intro packet response code result parsed
  have converted : strdec2intFrom packet 0 = (code, result) := Except.ok.inj parsed
  simpa [converted] using strdec2intFrom_code packet 0

theorem returnsCode_parseRspQlst : ReturnsCode parseRspQlst := by
  apply returnsCode_ofMinLength
  intro packet response code result parsed
  beta_reduce at parsed
  split at parsed
  · cases parsed
  · split at parsed
    · cases parsed
    · cases parsed
      constructor <;> decide

theorem returnsCode_parseRspQpihf : ReturnsCode parseRspQpihf := by
  intro packet response code result parsed
  cases parsed

end EsInverter.Rs232
