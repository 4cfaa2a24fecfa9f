import CacheTiers.Json.Token
import CacheTiers.Text.Utf8

namespace CacheTiers.Text

def hexByte? (high low : Char) : Option UInt8 := do
  let high ← Json.hexDigit? high
  let low ← Json.hexDigit? low
  return (high * 16 + low).toUInt8

def percentDecode : List Char → List UInt8
  | [] => []
  | '%' :: high :: low :: rest =>
    match hexByte? high low with
    | some byte => byte :: percentDecode rest
    | none => encodeChar '%' ++ percentDecode (high :: low :: rest)
  | c :: rest => encodeChar c ++ percentDecode rest

end CacheTiers.Text
