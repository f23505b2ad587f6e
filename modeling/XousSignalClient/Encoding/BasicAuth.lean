import XousSignalClient.Encoding.Base64
import XousSignalClient.Encoding.Text

namespace Encoding

def splitFirst (sep : Char) (s : String) : Option (String × String) :=
  match s.toList.dropWhile (· ≠ sep) with
  | [] => none
  | _ :: rest => some (String.ofList (s.toList.takeWhile (· ≠ sep)), String.ofList rest)

def readBasic (header : String) : Option (String × String) := do
  let encoded ← strip_prefix header "Basic "
  let raw ← base64Decode encoded
  let text ← from_utf8 raw
  splitFirst ':' text

end Encoding
