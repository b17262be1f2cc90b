import ThingHost.Bus
import ThingHost.Json.Writer
import ThingHost.Time.Instant

/-! Relaying: an event of a Thing as the message that is posted for other processes to read. -/

namespace ThingHost
namespace Relay

/-- The message for an event; data that is undefined is left out of its text. -/
def message (thing : Value) (e : Event) (now : Int) : Value :=
  .object [("thing_id", thing), ("type", .string e.typeName), ("name", e.name),
    ("data", e.data), ("emitted_at", .string (Instant.text now))]

/-- The message can be written. -/
def writable (e : Event) : Bool := !Json.holdsBigint e.data

/-- A relay posts every event; one that cannot be written only leaves a warning. -/
def screen (thing : Value) (e : Event) : Screening :=
  if writable e then .wanted else .handled (.relayFailed (.fault .unwritableNumber) thing e.name)

end Relay
end ThingHost
