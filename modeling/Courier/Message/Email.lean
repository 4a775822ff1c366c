/-!
# Email messages

One rendered email, ready for the mail transport: the recipient, the sender, the subject and the
HTML body.
-/

namespace Courier

/-- One rendered email. -/
structure EmailMessage where
  recipient : String
  sender : String
  subject : String
  html : String

end Courier
