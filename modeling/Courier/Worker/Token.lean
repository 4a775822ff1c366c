import Courier.Fault

/-!
# Device tokens

A push device token is 20 to 200 bytes of ASCII letters, digits, `_`, `-`, `:` and `.`. The
checks run in order: empty, too short, too long, bad characters.
-/

namespace Courier.Worker

/-- Whether a character may appear in a device token. -/
def isTokenChar (c : Char) : Bool :=
  (c.isAlphanum && c.toNat < 128) || c == '_' || c == '-' || c == ':' || c == '.'

/-- Checks a device token. -/
def validatePushToken (token : String) : Outcome Unit :=
  if token.isEmpty then .error (.validation "Device token cannot be empty")
  else if token.utf8ByteSize < 20 then
    .error (.validation "Device token too short (minimum 20 characters)")
  else if token.utf8ByteSize > 200 then
    .error (.validation "Device token too long (maximum 200 characters)")
  else if !token.toList.all isTokenChar then
    .error (.validation "Device token contains invalid characters")
  else .ok ()

end Courier.Worker
