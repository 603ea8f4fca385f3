/-!
Identifiers that grow with time. From the most significant bit on, an identifier holds the
milliseconds since 2025-01-01, five bits of the worker, five bits of the process and a sequence
number of twelve bits.
-/

namespace Guildhall.Snowflake

def epochMillis : Int := 1735689600000

def sequenceBits : Nat := 12
def processBits : Nat := 5
def workerBits : Nat := 5
def timestampShift : Nat := sequenceBits + processBits + workerBits

def sequenceCount : Nat := Nat.pow 2 sequenceBits
def workerCount : Nat := Nat.pow 2 workerBits
def processCount : Nat := Nat.pow 2 processBits

structure Node where
  worker : Fin workerCount
  process : Fin processCount
  deriving DecidableEq, Repr

inductive NodeError where
  | workerOutOfRange
  | processOutOfRange
  deriving DecidableEq, Repr

def NodeError.message : NodeError → String
  | .workerOutOfRange => s!"worker_id must be between 0 and {workerCount - 1}"
  | .processOutOfRange => s!"process_id must be between 0 and {processCount - 1}"

def part? (count : Nat) (value : Int) : Option (Fin count) :=
  if h : 0 ≤ value ∧ value.toNat < count then some ⟨value.toNat, h.2⟩ else none

def Node.ofInts (worker process : Int) : Except NodeError Node :=
  match part? workerCount worker, part? processCount process with
  | none, _ => .error .workerOutOfRange
  | some _, none => .error .processOutOfRange
  | some worker, some process => .ok ⟨worker, process⟩

/-- The parts lie in disjoint bits, so that their sum holds each of them. -/
def pack (millis : Int) (node : Node) (sequence : Nat) : Int :=
  millis * Nat.pow 2 timestampShift + node.worker.val * Nat.pow 2 (sequenceBits + processBits) +
    node.process.val * Nat.pow 2 sequenceBits + sequence

def timestamp (id : Int) : Int := id >>> timestampShift
def workerOf (id : Int) : Int := (id >>> (sequenceBits + processBits)) % workerCount
def processOf (id : Int) : Int := (id >>> sequenceBits) % processCount
def sequenceOf (id : Int) : Int := id % sequenceCount

def millisOf (nanos : Int) : Int := nanos.fdiv 1000000 - epochMillis

end Guildhall.Snowflake
