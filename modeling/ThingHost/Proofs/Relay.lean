import ThingHost.Proofs.Json
import ThingHost.Relay

/-! The text of a message, member by member. -/

namespace ThingHost

namespace Relay

/-- The text of a message: the id of the Thing, the type and the name of the event, its data if there is any,
    and the time. -/
def text (thing : String) (e : Event) (now : Int) : String :=
  let data := if e.data.isUndefined then [] else [Json.member "data" e.data]
  let members := [Json.member "thing_id" (.string thing), Json.member "type" (.string e.typeName),
    Json.member "name" e.name] ++ data ++ [Json.member "emitted_at" (.string (Instant.text now))]
  String.ofList ('{' :: (List.intercalate [','] members ++ ['}']))

section Message
variable {thing : String} {e : Event} {now : Int}

theorem write_message (hname : e.name.isUndefined = false) :
    Json.write (message (.string thing) e now) = text thing e now := by
  have hmembers : (([("thing_id", .string thing), ("type", .string e.typeName), ("name", e.name), ("data", e.data),
      ("emitted_at", .string (Instant.text now))] : Fields).filter fun m => !m.2.isUndefined) =
      [("thing_id", .string thing), ("type", .string e.typeName), ("name", e.name)] ++
        (if e.data.isUndefined then [] else [("data", e.data)]) ++ [("emitted_at", .string (Instant.text now))] := by
    have hstring : ∀ s, (Value.string s).isUndefined = false := fun _ => rfl
    cases hd : e.data.isUndefined <;> simp [hname, hd, hstring]
  simp only [Json.write, message, Json.chars, Json.memberChars_eq, hmembers, text]
  cases e.data.isUndefined <;> rfl

/-- A message has a text if and only if its data holds no big integer. -/
theorem write?_message {name : String} (hname : e.name = .string name) :
    Json.write? (message (.string thing) e now) = if writable e then some (text thing e now) else none := by
  have hholds : Json.holdsBigint (message (.string thing) e now) = Json.holdsBigint e.data := by
    simp [message, Json.holdsBigint, Json.membersHoldBigint, hname]
  have hundefined : e.name.isUndefined = false := by
    rw [hname]
    rfl
  rw [Json.write?, hholds, write_message hundefined, writable]
  cases Json.holdsBigint e.data <;> rfl

end Message

end Relay
end ThingHost
