import EsInverter.Lib.Simulation
import EsInverter.RingBuf.Queue

/-!
# The ring buffer refines a bounded queue

The queue is a list of bytes that keeps the last `size` of them.  Every sequence
of calls on a ring answers what the queue answers.
-/

set_option autoImplicit false

namespace EsInverter.RingBuf

open Lib

variable {size : Nat}

inductive Operation
  | init
  | write (data : List UInt8)
  | read (len : Nat)
  | clear (bytesToClear : Nat)
  | flush
  deriving DecidableEq, Repr

/-- What a call returns, and the bytes it copies for its caller. -/
structure Answer where
  returned : Nat
  bytes : List UInt8
  deriving DecidableEq, Repr

def nothing : Answer := { returned := 0, bytes := [] }

/-- A ring has a position to read at. -/
theorem size_pos (buf : RingBuf size) : 0 < size := Nat.zero_lt_of_lt buf.read.isLt

def queueStep (size : Nat) (queue : List UInt8) : Operation → List UInt8 × Answer
  | .init => ([], nothing)
  | .write data => (lastOf size (queue ++ data), { returned := data.length, bytes := [] })
  | .read len => (queue, { returned := min len queue.length, bytes := queue.take len })
  | .clear bytesToClear =>
      (queue.drop (min bytesToClear queue.length),
        { returned := if queue = [] then 0 else bytesToClear, bytes := [] })
  | .flush => ([], nothing)

/-- A ring stands for a queue. -/
structure Represents (buf : RingBuf size) (queue : List UInt8) : Prop where
  consistent : buf.Consistent
  contents : buf.contents = queue
  len : buf.ringbufLen = queue.length
  bounded : queue.length ≤ size
  freeLen : buf.ringbufFreeLen = size - queue.length
  isFull : buf.ringbufIsFull = true ↔ queue.length = size
  isEmpty : buf.ringbufIsEmpty = true ↔ queue = []

end EsInverter.RingBuf
