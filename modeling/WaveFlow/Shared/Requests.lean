import Mathlib.Data.String.Basic

/-!
# Requests

What the gateway and the API read of an HTTP request.
-/

namespace WaveFlow

/-- A request: its headers, in order and with names in lower case, and its body. -/
structure Request where
  headers : List (String × List UInt8)
  body : List UInt8

/-- `HeaderValue::to_str`: visible ASCII characters and tabs. -/
def headerText (value : List UInt8) : Option String :=
  if value.all fun b => (32 ≤ b && b < 127) || b = 9 then
    some (String.ofList (value.map fun b => Char.ofNat b.toNat))
  else none

/-- `headers.get(name).and_then(|v| v.to_str().ok())` -/
def Request.header (req : Request) (name : String) : Option String :=
  (req.headers.lookup name).bind headerText

end WaveFlow
