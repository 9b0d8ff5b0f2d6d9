import QaRunner.Domain.Digest

/-! Canonical events reported for one Attempt. -/
namespace QaRunner
open Guarded

structure AttemptEvent.Fields where
  eventId : Str
  eventSeq : ℤ
  eventType : Str
  payloadDigest : Digest
  deriving DecidableEq

def AttemptEvent.Fields.postInit (e : AttemptEvent.Fields) : Result Unit := do
  requireNonemptyString "attempt_event" "event_id" e.eventId
  requireNonemptyString "attempt_event" "event_type" e.eventType
  requirePositiveInteger "attempt_event" "event_seq" e.eventSeq

/-- Immutable event identity and payload digest from a Worker. -/
structure AttemptEvent extends AttemptEvent.Fields where
  accepted : toFields.postInit = .ok ()
  deriving DecidableEq

end QaRunner
