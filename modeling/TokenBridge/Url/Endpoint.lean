import TokenBridge.Error
import TokenBridge.Url

/-!
# Endpoints

An endpoint is a URL of the scheme `http` or `https` that has a host. What is a
URL is for a parser to say.
-/

namespace TokenBridge.Url

/-- Refuses a text that is no endpoint; `name` is what the text is called in messages. -/
def checkEndpoint (parse : Parser) (text name : String) : Except Report Unit :=
  match parse text with
  | .error e => .error (.of (name ++ " must be a valid URL: " ++ e))
  | .ok u =>
    if u.scheme ≠ "http" ∧ u.scheme ≠ "https" then
      .error (.of (name ++ " must use http:// or https:// scheme, got " ++ u.scheme))
    else if u.host.isNone then .error (.of (name ++ " must have a host component"))
    else .ok ()

end TokenBridge.Url
