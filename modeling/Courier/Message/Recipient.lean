import Courier.Message.Channel

/-!
# Recipients

A user as the user service describes them: an id, an optional email address, device tokens,
and optional preferences. A user accepts a channel only if they have preferences and those
enable it.
-/

namespace Courier

open Json

/-- Which channels a user has enabled. -/
structure Preferences where
  email : Bool := false
  push : Bool := false
  deriving DecidableEq

/-- A user who may receive notifications. -/
structure User where
  id : String
  email : Option String := none
  pushTokens : List String := []
  preferences : Option Preferences := none
  deriving DecidableEq

namespace Preferences

/-- The JSON shape of preferences. -/
def shape : Shape :=
  .record "UserPreferences"
    [("email_notification_enabled", .flag, true), ("push_notification_enabled", .flag, true)]

/-- Preferences from a value in the normal form of `shape`. -/
def ofValue (v : Value) : Preferences where
  email := ((v.field "email_notification_enabled").bool?).getD false
  push := ((v.field "push_notification_enabled").bool?).getD false

/-- Preferences as JSON. -/
def toValue (p : Preferences) : Value :=
  .object [("email_notification_enabled", .bool p.email),
    ("push_notification_enabled", .bool p.push)]

end Preferences

namespace User

/-- The JSON shape of a user. -/
def shape : Shape :=
  .record "User"
    [("id", .text, false), ("email", .optional .text, true),
     ("push_tokens", .list .text, true), ("preferences", .optional Preferences.shape, true)]

/-- A user from a value in the normal form of `shape`. -/
def ofValue (v : Value) : User where
  id := ((v.field "id").str?).getD ""
  email := (v.field "email").str?
  pushTokens := (((v.field "push_tokens").arr?).getD []).filterMap Value.str?
  preferences := match v.field "preferences" with
    | .null => none
    | p => some (Preferences.ofValue p)

/-- A user as JSON. -/
def toValue (u : User) : Value :=
  .object [("id", .str u.id), ("email", .optStr u.email), ("push_tokens", .strs u.pushTokens),
    ("preferences", Value.ofOption Preferences.toValue u.preferences)]

/-- Whether the user accepts notifications on a channel. -/
def accepts (u : User) (c : Channel) : Bool :=
  match u.preferences, c with
  | some p, .email => p.email
  | some p, .push => p.push
  | none, _ => false

end User

end Courier
