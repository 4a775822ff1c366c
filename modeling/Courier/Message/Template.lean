import Courier.Json.Shape

/-!
# Message templates

A template as the template service stores it: a subject, a body, an action link and an image
link, each optional, and optional metadata that push notifications carry as data.
-/

namespace Courier

open Json

/-- A stored message template. -/
structure MessageTemplate where
  subject : Option String := none
  body : Option String := none
  actionUrl : Option String := none
  imageUrl : Option String := none
  metadata : Option (List (String × Value)) := none

namespace MessageTemplate

/-- The JSON shape of a template; every field may be left out. -/
def shape : Shape :=
  .record "Template"
    [("subject", .optional .text, true), ("body", .optional .text, true),
     ("action_url", .optional .text, true), ("image_url", .optional .text, true),
     ("metadata", .optional (.dict .any), true)]

/-- A template from a value in the normal form of `shape`. -/
def ofValue (v : Value) : MessageTemplate where
  subject := (v.field "subject").str?
  body := (v.field "body").str?
  actionUrl := (v.field "action_url").str?
  imageUrl := (v.field "image_url").str?
  metadata := (v.field "metadata").obj?

/-- A template as JSON. -/
def toValue (t : MessageTemplate) : Value :=
  .object [("subject", .optStr t.subject), ("body", .optStr t.body),
    ("action_url", .optStr t.actionUrl), ("image_url", .optStr t.imageUrl),
    ("metadata", Value.ofOption Value.obj t.metadata)]

end MessageTemplate

end Courier
