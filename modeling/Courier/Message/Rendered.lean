import Courier.Message.Template
import Courier.Template.Render
import Courier.Fault

/-!
# Filling in a message template

The subject, body and action link of a template are rendered in that order against the
request's variables; the first failure wins. A missing subject or body renders as empty text, a
missing action link stays missing. A template that cannot be compiled or rendered is a
validation fault.
-/

namespace Courier

open Json

/-- A template filled in for one message. -/
structure Rendered where
  subject : String
  body : String
  actionUrl : Option String

/-- Renders one template source; a failure is a validation fault. -/
def renderSource (source : String) (vars : Value) : Outcome String :=
  match Template.renderText source vars with
  | .ok s => .ok s
  | .error m => .error (.validation ("Template could not be rendered: " ++ m))

/-- Renders the subject, the body and the action link of a template. -/
def MessageTemplate.render (t : MessageTemplate) (vars : Value) : Outcome Rendered := do
  let subject ← renderSource (t.subject.getD "") vars
  let body ← renderSource (t.body.getD "") vars
  let actionUrl ← match t.actionUrl with
    | some url => some <$> renderSource url vars
    | none => pure none
  pure { subject, body, actionUrl }

/-- A filled-in template as JSON. -/
def Rendered.toValue (r : Rendered) : Value :=
  .object [("subject", .str r.subject), ("body", .str r.body),
    ("action_url", .optStr r.actionUrl)]

end Courier
