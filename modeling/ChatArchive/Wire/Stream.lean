import ChatArchive.Wire.Reader
/-!
Payloads as values. `decodeOne` reads a payload that must hold exactly one value; `stream` reads
the values concatenated in a payload, in order, ending at the first failure, which it keeps.
A failure says what went wrong: no bytes at all, bytes left after one whole value, or bytes
that are no value, with the offset where that value began.
-/
namespace ChatArchive.Wire

inductive Failure where
  | empty
  | trailing (consumed remaining : Nat)
  | malformed (offset : Nat) (detail : ReadError)
  deriving DecidableEq, Repr

def Failure.message : Failure → String
  | .empty => "empty payload"
  | .trailing c r => s!"extra data: {r} bytes remain after the first value ({c} bytes consumed)"
  | .malformed o d => s!"malformed data at offset {o}: {d.message}"

def readAt (bytes : List UInt8) (offset : Nat) : Except Failure (Value × Nat) :=
  match readOne (bytes.drop offset) with
  | .ok r => .ok r
  | .error e => .error (.malformed offset e)

def decodeOne (bytes : List UInt8) : Except Failure Value :=
  if bytes.isEmpty then .error .empty
  else
    match readAt bytes 0 with
    | .error e => .error e
    | .ok (v, consumed) =>
      if consumed < bytes.length then .error (.trailing consumed (bytes.length - consumed))
      else .ok v

structure ValueStream where
  bytes : List UInt8
  offset : Nat
  failed : Bool
  deriving DecidableEq, Repr

def decodeStream (bytes : List UInt8) : ValueStream := ⟨bytes, 0, false⟩

namespace ValueStream

/-- The next item of a walk and the walk after it. Once a failure was given or the bytes are
used up there is none; otherwise the value at the offset, which moves past it, or the failure
there, after which the walk gives nothing. -/
def next (s : ValueStream) : Option (Except Failure Value) × ValueStream :=
  if s.failed || s.bytes.length ≤ s.offset then (none, s)
  else
    match readAt s.bytes s.offset with
    | .ok (v, consumed) => (some (.ok v), { s with offset := s.offset + consumed })
    | .error e => (some (.error e), { s with failed := true })

def items : Nat → ValueStream → List (Except Failure Value)
  | 0, _ => []
  | fuel + 1, s =>
    match s.next with
    | (some i, s') => i :: items fuel s'
    | (none, _) => []

end ValueStream

/-- The values concatenated in a payload, in order; a failure ends the list. Each value takes
at least one byte, so the length of the payload bounds the number of items. -/
def stream (bytes : List UInt8) : List (Except Failure Value) :=
  (decodeStream bytes).items bytes.length

end ChatArchive.Wire
