import BuildHook.Event.Json
import BuildHook.Timestamp
import BuildHook.Uuid

namespace BuildHook

structure Stamp where
  id : Uuid
  correlation : Option String
  time : Timestamp
  level : Level
  source : String
  deriving DecidableEq

structure Envelope where
  stamp : Stamp
  event : Event
  deriving DecidableEq

namespace Stamp

def toJson (s : Stamp) : Json :=
  .obj [("eventId", .str s.id.text), ("correlationId", .option .str s.correlation),
    ("timestamp", .str s.time.text), ("level", s.level.toJson), ("source", .str s.source)]

def ofJson? : Json → Option Stamp := Json.record 5 fun fields ↦ do
  let id ← (fields.slot 0 "eventId").required Json.str?
  let correlation ← (fields.slot 1 "correlationId").optional Json.str?
  let time ← (fields.slot 2 "timestamp").required Json.str?
  let level ← (fields.slot 3 "level").required Level.ofJson?
  let source ← (fields.slot 4 "source").required Json.str?
  return ⟨← Uuid.parse? id, correlation, ← Timestamp.parse? time, level, source⟩

end Stamp

namespace Envelope

def message (e : Envelope) : Message :=
  ⟨e.stamp.level, e.stamp.source, e.stamp.correlation, e.event⟩

def toJson (e : Envelope) : Json := .obj [("meta", e.stamp.toJson), ("event", e.event.toJson)]

def ofJson? : Json → Option Envelope := Json.record 2 fun fields ↦ do
  let stamp ← (fields.slot 0 "meta").required Stamp.ofJson?
  let event ← (fields.slot 1 "event").required Event.ofJson?
  return ⟨stamp, event⟩

end Envelope

end BuildHook
