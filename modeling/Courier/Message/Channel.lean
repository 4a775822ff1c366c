import Courier.Fault
import Courier.Json.Shape

/-!
# Channels

A notification goes out by email or by push. The channel's name is also the routing key of its
queue, and it is how the channel is written in JSON.
-/

namespace Courier

open Json

/-- The way a notification reaches its recipient. -/
inductive Channel where
  | email
  | push
deriving DecidableEq, Repr

namespace Channel

/-- The name of a channel, which is also its routing key. -/
def name : Channel → String
  | .email => "email"
  | .push => "push"

/-- The channel of a name, if it names one. -/
def ofName? : String → Option Channel
  | "email" => some .email
  | "push" => some .push
  | _ => none

/-- Reads a channel from its name; other names are refused. -/
def parse (s : String) : Outcome Channel :=
  match ofName? s with
  | some c => .ok c
  | none => .error (.validation ("Unknown notification type '" ++ s ++ "'"))

/-- The JSON shape of a channel. -/
def shape : Shape := .choice ["email", "push"]

/-- A channel as a JSON value. -/
def toValue (c : Channel) : Value := .str c.name

theorem ofName?_name (c : Channel) : ofName? c.name = some c := by
  cases c <;> rfl

end Channel

end Courier
