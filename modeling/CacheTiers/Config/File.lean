import CacheTiers.Config.Reader
import CacheTiers.Text.Utf8

namespace CacheTiers.Config

def textOf (content : Except FileFault (List UInt8)) : Except CacheError String :=
  match content with
  | .error fault => .error (.file fault)
  | .ok bytes => match Text.decode? bytes with
    | some chars => .ok (String.ofList chars)
    | none => .error (.file .notText)

def ofFile (content : Except FileFault (List UInt8)) : Except CacheError Config := do
  let text ← textOf content
  parse text

end CacheTiers.Config
