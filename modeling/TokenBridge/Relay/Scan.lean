import TokenBridge.Error
import TokenBridge.Http
import TokenBridge.Json.Parser
import TokenBridge.Relay.Message
import TokenBridge.Settings
import TokenBridge.Url

/-!
# The delivery index over HTTP

Two questions are asked of the index: one message by its id, and the messages
of a wallet. The answer to the first is an object that has an id itself, or the
first item of its `data` array; status 404, an empty array and an item that is
no object mean that the message is not indexed yet. The answer to the second is
the objects of its `messages` array, or else of its `data` array. Any status
outside 200 to 299 is an error with the text of the body.
-/

namespace TokenBridge.Relay

/-- A client of the index. -/
structure Scan where
  base : String
  deriving DecidableEq, Repr

namespace Scan

/-- The client of a base address, slashes at its end aside. -/
def ofBase (base : String) : Scan := ⟨Text.trimEndChar '/' base⟩

def defaultLimit : Nat := 20

/-! ## Requests -/

def requestFor (u : Url) : Http.Request :=
  { method := "GET"
    host := u.hostText
    target := u.target
    accept := "application/json" }

/-- The URL of a text; one that is malformed fails like a request that cannot be sent. -/
def url (parse : Url.Parser) (s : String) : Except RelayError Url :=
  (parse s).mapError fun e => .transport ("builder error: " ++ e)

def messageRequest (parse : Url.Parser) (c : Scan) (guid : String) :
    Except RelayError Http.Request :=
  (url parse (c.base ++ "/messages/guid/" ++ guid)).map requestFor

/-- The request for the messages of a wallet; a limit of zero is the default one. -/
def walletRequest (parse : Url.Parser) (c : Scan) (address : String) (limit : Nat) :
    Except RelayError Http.Request :=
  let limit := if limit = 0 then defaultLimit else limit
  (url parse (c.base ++ "/messages/wallet/" ++ address)).map fun u =>
    requestFor (u.addQuery "limit" (Number.decimal limit))

/-! ## Responses -/

/-- The JSON body of a successful response. -/
def jsonBody (r : Http.Response) : Except RelayError Json :=
  if !r.isSuccess then .error (.status r.status r.text)
  else match Json.parseBytes r.content with
    | some v => .ok v
    | none => .error (.decode "error decoding response body")

def arrayField? (key : String) (v : Json) : Option (List Json) :=
  match v.get? key with
  | some (.arr items) => some items
  | _ => none

def hasGuid (members : List (String × Json)) : Bool :=
  members.any fun m => m.1 == "guid" || m.1 == "messageGuid"

/-- The members of the message in a JSON body; none if the message is not indexed yet. -/
def messageMembers (v : Json) : Except RelayError (Option (List (String × Json))) :=
  match v with
  | .obj members =>
    if hasGuid members then .ok (some members)
    else match arrayField? "data" v with
      | none => .ok (some members)
      | some (.obj first :: _) => .ok (some first)
      | some _ => .ok none
  | v => .error (.decode ("expected a JSON object, got " ++ v.kind))

def message (guid : String) (r : Http.Response) : Except RelayError Message :=
  if r.status = 404 then .error (.notFound guid)
  else match (jsonBody r).bind messageMembers with
    | .error e => .error e
    | .ok none => .error (.notFound guid)
    | .ok (some members) => .ok (.ofMembers members)

def messagesOf (items : List Json) : List Message :=
  items.filterMap fun
    | .obj members => some (.ofMembers members)
    | _ => none

def walletMessages (r : Http.Response) : Except RelayError (List Message) :=
  (jsonBody r).map fun v =>
    messagesOf (((arrayField? "messages" v).or (arrayField? "data" v)).getD [])

end Scan

end TokenBridge.Relay
