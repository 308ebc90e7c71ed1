import EsInverter.Fault
import Mathlib

/-!
# The ring buffer

The positions of a ring lie inside its storage, which the type keeps.
-/

set_option autoImplicit false

namespace EsInverter

/-- `em_ringbuf_t` -/
structure RingBuf (size : Nat) where
  buffer : Vector UInt8 size
  read : Fin size
  write : Fin size
  isFull : Bool
  deriving DecidableEq, Repr

variable {size : Nat}

namespace RingBuf

/-- A position some bytes on. -/
def advance (position : Fin size) (count : Nat) : Fin size :=
  ⟨(position.val + count) % size, Nat.mod_lt _ (Nat.zero_lt_of_lt position.isLt)⟩

/-- `em_ringbuf_init` on storage that holds zeros. -/
def ringbufInit (size : Nat) (positive : 0 < size) : RingBuf size :=
  { buffer := Vector.replicate size 0, read := ⟨0, positive⟩, write := ⟨0, positive⟩,
    isFull := false }

def ringbufIsEmpty (buf : RingBuf size) : Bool := buf.read == buf.write && !buf.isFull

/-- One byte of `em_ringbuf_write`: in a full ring it replaces the oldest one. -/
def writeByte (buf : RingBuf size) (byte : UInt8) : RingBuf size :=
  let read := if buf.isFull then advance buf.read 1 else buf.read
  let write := advance buf.write 1
  { buffer := buf.buffer.set buf.write byte, read, write, isFull := read == write }

/-- `em_ringbuf_write`, which always writes all bytes. -/
def ringbufWrite (data : List UInt8) (buf : RingBuf size) : Except Fault (RingBuf size) :=
  if data = [] then .error (.assertion .dataLen) else .ok (data.foldl writeByte buf)

def readFrom (buf : RingBuf size) : Nat → Nat → List UInt8
  | 0, _ => []
  | remaining + 1, i =>
      let position := advance buf.read i
      if i > 0 ∧ position = buf.write then []
      else buf.buffer[position] :: readFrom buf remaining (i + 1)

/-- `em_ringbuf_read` -/
def ringbufRead (len : Nat) (buf : RingBuf size) : Except Fault (List UInt8) :=
  if len = 0 then .error (.assertion .dataLen)
  else if buf.ringbufIsEmpty then .ok []
  else .ok (readFrom buf len 0)

def ringbufFlush (buf : RingBuf size) : RingBuf size :=
  let start : Fin size := ⟨0, Nat.zero_lt_of_lt buf.read.isLt⟩
  { buf with read := start, write := start, isFull := false }

/-- `em_ringbuf_len` -/
def ringbufLen (buf : RingBuf size) : Nat :=
  if buf.isFull then size
  else if buf.write.val ≥ buf.read.val then buf.write.val - buf.read.val
  else size - (buf.read.val - buf.write.val)

/-- `em_ringbuf_clear` -/
def ringbufClear (bytesToClear : Nat) (buf : RingBuf size) : Except Fault (RingBuf size) :=
  if bytesToClear = 0 then .error (.assertion .dataLen)
  else if buf.ringbufLen = 0 then .ok buf
  else if bytesToClear ≥ buf.ringbufLen then .ok buf.ringbufFlush
  else .ok { buf with read := advance buf.read bytesToClear, isFull := false }

def ringbufIsFull (buf : RingBuf size) : Bool := buf.isFull

def ringbufFreeLen (buf : RingBuf size) : Nat := size - buf.ringbufLen

end RingBuf

end EsInverter
