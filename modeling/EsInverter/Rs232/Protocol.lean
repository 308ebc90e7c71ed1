import EsInverter.Rs232.Crc
import EsInverter.Rs232.SubParsers

/-!
# `rs232_2400_rsp_parse`

The function looks for the last frame of its input, checks it and hands the
packet inside to the sub-parser of the request that is outstanding.
-/

set_option autoImplicit false

namespace EsInverter.Rs232

open Lib

/-! ### The output object -/

/-- What was last written to the output object. -/
inductive Payload
  | zero
  | word (value : UInt32)
  | long (value : UInt64)
  | int (value : Int32)
  | model (text : List UInt8)
  | qid (response : QidResponse)
  | qpiri (response : QpiriResponse)
  | qflag (response : QflagResponse)
  | qpigs (response : QpigsResponse)
  | hilo (response : HiloVoltageResponse)
  | qgof (response : QgofResponse)
  | qtpr (response : QtprResponse)
  | qdi2 (response : Qdi2Response)
  | qchgs (response : QchgsResponse)
  /-- The copy of a rejection. -/
  | rejection (packet : List UInt8)
  deriving DecidableEq, Repr

namespace Payload

/-- The number of bytes of the output object that were written. -/
def size : Payload → Nat
  | zero => 0
  | word _ => 4
  | long _ => 8
  | int _ => 4
  | model text => text.length
  | qid _ => 16
  | qpiri _ => 40
  | qflag _ => 12
  | qpigs _ => 76
  | hilo _ => 8
  | qgof _ => 8
  | qtpr _ => 12
  | qdi2 _ => 12
  | qchgs _ => 16
  | rejection packet => packet.length

/-! An object that was never written holds zeros. -/

def asWord : Payload → UInt32
  | word value => value
  | _ => 0

def asLong : Payload → UInt64
  | long value => value
  | _ => 0

def asInt : Payload → Int32
  | int value => value
  | _ => 0

def asModel : Payload → List UInt8
  | model text => text
  | _ => List.replicate 16 0

def asQid : Payload → QidResponse
  | qid response => response
  | _ => ⟨0, 0, 0, 0, List.replicate 3 0, List.replicate 3 0, List.replicate 6 0⟩

def asQpiri : Payload → QpiriResponse
  | qpiri response => response
  | _ => ⟨.zero, .zero, .zero, .zero, .zero, .zero, .zero, 0, 0, 0⟩

def asQflag : Payload → QflagResponse
  | qflag response => response
  | _ => ⟨0, false, false, false, false, false, false, false, false, false⟩

def asQpigs : Payload → QpigsResponse
  | qpigs response => response
  | _ => ⟨.zero, .zero, .zero, .zero, 0, 0, 0, 0, .zero, 0, 0, .zero, 0, 0, .zero, .zero, 0, 0, 0,
      0, 0⟩

def asHilo : Payload → HiloVoltageResponse
  | hilo response => response
  | _ => ⟨0, 0⟩

def asQgof : Payload → QgofResponse
  | qgof response => response
  | _ => ⟨.zero, .zero⟩

def asQtpr : Payload → QtprResponse
  | qtpr response => response
  | _ => ⟨.zero, .zero, .zero⟩

def asQdi2 : Payload → Qdi2Response
  | qdi2 response => response
  | _ => ⟨.zero, .zero, 0⟩

def asQchgs : Payload → QchgsResponse
  | qchgs response => response
  | _ => ⟨.zero, .zero, .zero, .zero⟩

end Payload

/-- A sub-parser on the output object, seen as the type it is cast to; an object that it leaves
alone keeps what was written to it. -/
def castTo {ρ : Type} [DecidableEq ρ] (view : Payload → ρ) (wrap : ρ → Payload)
    (parse : SubParser ρ) : SubParser Payload := fun packet output =>
  match parse packet (view output) with
  | .error fault => .error fault
  | .ok (code, response) =>
      .ok (code, if response = view output then output else wrap response)

theorem castTo_ok {ρ : Type} [DecidableEq ρ] {view : Payload → ρ} {wrap : ρ → Payload}
    {parse : SubParser ρ} {packet : List UInt8} {output result : Payload} {code : Int}
    (parsed : castTo view wrap parse packet output = .ok (code, result)) :
    ∃ response, parse packet (view output) = .ok (code, response) ∧
      result = if response = view output then output else wrap response := by
  rw [castTo] at parsed
  cases called : parse packet (view output) with
  | error fault =>
      rw [called] at parsed
      cases parsed
  | ok returned =>
      rw [called] at parsed
      cases parsed
      exact ⟨returned.2, rfl, rfl⟩

theorem returnsCode_castTo {ρ : Type} [DecidableEq ρ] (view : Payload → ρ) (wrap : ρ → Payload)
    {parse : SubParser ρ} (inner : ReturnsCode parse) : ReturnsCode (castTo view wrap parse) := by
  intro packet output code result parsed
  obtain ⟨response, called, _⟩ := castTo_ok parsed
  exact inner _ _ _ _ called

/-! ### Requests with a sub-parser -/

inductive Cmd
  | qpi
  | qid
  | qvfw
  | qvfw2
  | qvfw3
  | qpiri
  | qmd
  | qflag
  | qpigs
  | qmod
  | qgov
  | qgof
  | qopmp
  | qmpptv
  | qpvipv
  | qlst
  | qtpr
  | qdi2
  | qgltv
  | qdm
  | qpihf
  | qchgs
  | qpicf
  | qpiws
  deriving DecidableEq, Repr

namespace Cmd

def all : List Cmd :=
  [
    qpi, qid, qvfw, qvfw2, qvfw3, qpiri, qmd, qflag, qpigs, qmod, qgov, qgof, qopmp, qmpptv, qpvipv,
    qlst, qtpr, qdi2, qgltv, qdm, qpihf, qchgs, qpicf, qpiws]

/-- The value in `em_rs232_2400_cmd_e`. -/
def code : Cmd → UInt16
  | qpi => 1
  | qid => 2
  | qvfw => 3
  | qvfw2 => 4
  | qvfw3 => 5
  | qpiri => 6
  | qmd => 7
  | qflag => 8
  | qpigs => 9
  | qmod => 10
  | qgov => 17
  | qgof => 18
  | qopmp => 19
  | qmpptv => 20
  | qpvipv => 21
  | qlst => 22
  | qtpr => 23
  | qdi2 => 24
  | qgltv => 25
  | qchgs => 26
  | qdm => 27
  | qpihf => 29
  | qpicf => 30
  | qpiws => 41

def ofCode? (code : UInt16) : Option Cmd := all.find? fun cmd => cmd.code == code

@[simp]
theorem ofCode?_code (cmd : Cmd) : ofCode? cmd.code = some cmd := by
  cases cmd <;> decide

/-- The `switch` of `rs232_2400_rsp_parse`. -/
def subParser : Cmd → SubParser Payload
  | qpi => castTo Payload.asWord .word parseRspQpi
  | qid => castTo Payload.asQid .qid parseRspQid
  | qvfw | qvfw2 | qvfw3 => castTo Payload.asLong .long parseRspQvfw
  | qpiri => castTo Payload.asQpiri .qpiri parseRspQpiri
  | qmd => castTo Payload.asModel .model parseRspQmd
  | qflag => castTo Payload.asQflag .qflag parseRspQflag
  | qpigs => castTo Payload.asQpigs .qpigs parseRspQpigs
  | qmod => castTo Payload.asWord .word parseRspQmod
  | qgov => castTo Payload.asHilo .hilo parseRspQgov
  | qgof => castTo Payload.asQgof .qgof parseRspQgof
  | qopmp => castTo Payload.asInt .int parseRspQopmp
  | qmpptv => castTo Payload.asHilo .hilo parseRspQmpptv
  | qpvipv => castTo Payload.asHilo .hilo parseRspQpvipv
  | qlst => castTo Payload.asWord .word parseRspQlst
  | qtpr => castTo Payload.asQtpr .qtpr parseRspQtpr
  | qdi2 => castTo Payload.asQdi2 .qdi2 parseRspQdi2
  | qgltv => castTo Payload.asHilo .hilo parseRspQgltv
  | qdm => castTo Payload.asWord .word parseRspQdm
  | qpihf => castTo Payload.asWord .word parseRspQpihf
  | qchgs => castTo Payload.asQchgs .qchgs parseRspQchgs
  | qpicf => castTo Payload.asWord .word parseRspQpicf
  | qpiws => castTo Payload.asLong .long parseRspQpiws

theorem returnsCode_subParser (cmd : Cmd) : ReturnsCode cmd.subParser := by
  cases cmd with
  | qpi => exact returnsCode_castTo _ _ returnsCode_parseRspQpi
  | qid => exact returnsCode_castTo _ _ (returnsCode_ofLength 14 (returnsCode_accepting _))
  | qvfw => exact returnsCode_castTo _ _ returnsCode_parseRspQvfw
  | qvfw2 => exact returnsCode_castTo _ _ returnsCode_parseRspQvfw
  | qvfw3 => exact returnsCode_castTo _ _ returnsCode_parseRspQvfw
  | qpiri => exact returnsCode_castTo _ _ (returnsCode_ofLength 46 (returnsCode_scanned _))
  | qmd => exact returnsCode_castTo _ _ (returnsCode_ofMinLength 15 (returnsCode_accepting _))
  | qflag => exact returnsCode_castTo _ _ returnsCode_parseRspQflag
  | qpigs => exact returnsCode_castTo _ _ returnsCode_parseRspQpigs
  | qmod => exact returnsCode_castTo _ _ (returnsCode_ofLength 1 (returnsCode_accepting _))
  | qgov => exact returnsCode_castTo _ _ (returnsCode_ofMinLength 11 (returnsCode_scanned _))
  | qgof => exact returnsCode_castTo _ _ (returnsCode_ofMinLength 9 (returnsCode_scanned _))
  | qopmp => exact returnsCode_castTo _ _ returnsCode_parseRspQopmp
  | qmpptv => exact returnsCode_castTo _ _ (returnsCode_ofMinLength 7 (returnsCode_scanned _))
  | qpvipv => exact returnsCode_castTo _ _ (returnsCode_ofMinLength 7 (returnsCode_scanned _))
  | qlst => exact returnsCode_castTo _ _ returnsCode_parseRspQlst
  | qtpr => exact returnsCode_castTo _ _ (returnsCode_ofMinLength 17 (returnsCode_scanned _))
  | qdi2 => exact returnsCode_castTo _ _ (returnsCode_ofMinLength 13 (returnsCode_scanned _))
  | qgltv => exact returnsCode_castTo _ _ (returnsCode_ofLength 7 (returnsCode_scanned _))
  | qdm => exact returnsCode_castTo _ _ (returnsCode_ofLength 3 (returnsCode_scanned _))
  | qpihf => exact returnsCode_castTo Payload.asWord .word returnsCode_parseRspQpihf
  | qchgs => exact returnsCode_castTo _ _ (returnsCode_ofLength 20 (returnsCode_scanned _))
  | qpicf => exact returnsCode_castTo _ _ (returnsCode_ofLength 4 (returnsCode_accepting _))
  | qpiws =>
      exact returnsCode_castTo Payload.asLong .long
        (returnsCode_accepting fun packet _ => (packet.take 64).foldl warningStep 0)

end Cmd

/-! ### Finding and judging a frame -/

namespace ParseStatus

def unknown : UInt16 := 0
def ok : UInt16 := 1
def noPacket : UInt16 := 2
def invalidCrc : UInt16 := 3
def rqRejected : UInt16 := 4
def rspUnexpected : UInt16 := 5
def packetMalformed : UInt16 := 6

theorem noPacket_ne_ok : noPacket ≠ ok := by decide
theorem invalidCrc_ne_ok : invalidCrc ≠ ok := by decide
theorem rqRejected_ne_ok : rqRejected ≠ ok := by decide

end ParseStatus

def openingParenthesis : UInt8 := 40

/-- The position of the last opening parenthesis. -/
def packetStart : List UInt8 → Nat → Option Nat → Option Nat
  | [], _, found => found
  | byte :: rest, position, found =>
      packetStart rest (position + 1) (if byte = openingParenthesis then some position else found)

/-- The position of the first carriage return from `start` on. -/
def packetEnd (dataIn : List UInt8) (start : Nat) : Option Nat :=
  ((dataIn.drop start).findIdx? (· == carriageReturn)).map (start + ·)

/-- What a call leaves: the bytes it processed, its input and its output object afterwards, and
`*err`. -/
structure Parsed where
  processed : Nat
  dataIn : List UInt8
  output : Payload
  err : UInt16
  deriving DecidableEq, Repr

/-- The part behind the checksum: `dataIn` has its checksum zeroed already. -/
def judgePacket (rqId : UInt16) (packet dataIn : List UInt8) (output : Payload) (processed : Nat) :
    Except Fault Parsed :=
  if parseRspIsNak packet then
    .ok { processed, dataIn, output := .rejection packet, err := ParseStatus.rqRejected }
  else
    match Cmd.ofCode? rqId with
    | none => .ok { processed, dataIn, output, err := ParseStatus.noPacket }
    | some cmd =>
        match cmd.subParser packet output with
        | .error fault => .error fault
        | .ok (code, output) => .ok { processed, dataIn, output, err := UInt16.ofInt code }

/-- The part behind the search: a frame from `start` to its carriage return at `finish`. -/
def judgeFrame (rqId : UInt16) (dataIn : List UInt8) (output : Payload) (start finish : Nat) :
    Except Fault Parsed :=
  if finish - start ≤ 2 then
    .ok { processed := start, dataIn, output, err := ParseStatus.noPacket }
  else
    let actCrc := (dataIn.getD (finish - 2) 0).toUInt16 <<< 8 |||
      (dataIn.getD (finish - 1) 0).toUInt16
    let expCrc := crc16Xmodem ((dataIn.drop start).take (finish - start - 2))
    if expCrc ≠ actCrc then
      .ok { processed := finish + 1, dataIn, output, err := ParseStatus.invalidCrc }
    else
      let packet := (dataIn.drop (start + 1)).take (finish - start - 3)
      let dataIn := (dataIn.set (finish - 2) 0).set (finish - 1) 0
      judgePacket rqId packet dataIn output (finish + 1)

def rs232RspParse (rqId : UInt16) (dataIn : List UInt8) (output : Payload) :
    Except Fault Parsed :=
  if dataIn.length < 5 then
    .ok { processed := 0, dataIn, output, err := ParseStatus.noPacket }
  else
    match packetStart dataIn 0 none with
    | none => .ok { processed := dataIn.length, dataIn, output, err := ParseStatus.noPacket }
    | some start =>
        match packetEnd dataIn start with
        | none => .ok { processed := start, dataIn, output, err := ParseStatus.noPacket }
        | some finish => judgeFrame rqId dataIn output start finish

/-! ### The statuses it reports -/

/-- The codes of the sub-parsers, stored in an unsigned status. -/
theorem ofInt_code_ne_ok {code : Int} (low : -4 ≤ code) (high : code ≤ 0) :
    UInt16.ofInt code ≠ ParseStatus.ok := by
  interval_cases code <;> decide

theorem judgePacket_err {rqId : UInt16} {packet dataIn : List UInt8} {output : Payload}
    {processed : Nat} {parsed : Parsed}
    (returned : judgePacket rqId packet dataIn output processed = .ok parsed) :
    parsed.err ≠ ParseStatus.ok := by
  rw [judgePacket] at returned
  split at returned
  · cases returned
    exact ParseStatus.rqRejected_ne_ok
  · cases known : Cmd.ofCode? rqId with
    | none =>
        rw [known] at returned
        cases returned
        exact ParseStatus.noPacket_ne_ok
    | some cmd =>
        rw [known] at returned
        dsimp only at returned
        split at returned
        · cases returned
        · rename_i code response called
          cases returned
          obtain ⟨low, high⟩ := cmd.returnsCode_subParser packet output code response called
          exact ofInt_code_ne_ok low high

theorem judgeFrame_err {rqId : UInt16} {dataIn : List UInt8} {output : Payload}
    {start finish : Nat} {parsed : Parsed}
    (returned : judgeFrame rqId dataIn output start finish = .ok parsed) :
    parsed.err ≠ ParseStatus.ok := by
  rw [judgeFrame] at returned
  split at returned
  · cases returned
    exact ParseStatus.noPacket_ne_ok
  · dsimp only at returned
    split at returned
    · cases returned
      exact ParseStatus.invalidCrc_ne_ok
    · exact judgePacket_err returned

/-- A frame is accepted with the code of its sub-parser, which is zero, and not with
`PARSE_STATUS_OK`, which is one. -/
theorem rs232RspParse_err {rqId : UInt16} {dataIn : List UInt8} {output : Payload}
    {parsed : Parsed} (returned : rs232RspParse rqId dataIn output = .ok parsed) :
    parsed.err ≠ ParseStatus.ok := by
  rw [rs232RspParse] at returned
  split at returned
  · cases returned
    exact ParseStatus.noPacket_ne_ok
  · cases found : packetStart dataIn 0 none with
    | none =>
        rw [found] at returned
        cases returned
        exact ParseStatus.noPacket_ne_ok
    | some start =>
        rw [found] at returned
        dsimp only at returned
        cases ended : packetEnd dataIn start with
        | none =>
            rw [ended] at returned
            cases returned
            exact ParseStatus.noPacket_ne_ok
        | some finish =>
            rw [ended] at returned
            exact judgeFrame_err returned

end EsInverter.Rs232
