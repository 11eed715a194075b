import TwinCatalogue.Http.Failure
import TwinCatalogue.Http.Status
import TwinCatalogue.Json.Reading
import TwinCatalogue.Request
import TwinCatalogue.Text.Charset

/-!
What answers mean. Codes 200 and 201 carry a document, which may be empty; every other code is an
error with the message that its body holds, and if it holds none, with the reason phrase.
-/

namespace TwinCatalogue.Http

/-- An answer: its code, the type of its content, and its bytes, unless they broke off. -/
structure Answer where
  code : Nat
  contentType : Option String
  body : Except ExchangeError (List UInt8)

def charsetName? (contentType : String) : Option String :=
  ((contentType.toList.splitOn ';').drop 1).findSome? fun part =>
    let name := Text.lowerAscii (Text.trim (String.ofList (part.takeWhile (· != '='))))
    let value := (part.dropWhile (· != '=')).drop 1
    if name = "charset" then
      some (String.ofList (Text.stripWhile (fun c => Text.isBlank c || c == '"') value))
    else none

def charsetOf (contentType : Option String) : Text.Charset :=
  match contentType.bind charsetName? with
  | none => .utf8
  | some name => .ofName name

def messageKeys : List String := ["detail", "title", "message"]

def errorMessage (code : Nat) (body : String) : String :=
  let told :=
    match Json.parse body with
    | .ok value => messageKeys.findSome? fun key => (value.get? key).bind Json.text?
    | .error _ => none
  match told with
  | some message => message
  | none =>
    let trimmed := Text.trim body
    if trimmed = "" then (reasonPhrase? code).getD "unknown status" else trimmed

/-- The document that the body of a success holds. A value that is no object becomes the results
of a document. -/
def successDocument (url body : String) : Except StoreError Document :=
  if Text.blank body then .ok .empty
  else
    match Json.parse body with
    | .ok (.object members) => .ok ⟨members⟩
    | .ok value => .ok (Document.empty.insert "results" value)
    | .error e => .error (.decode url e.message)

def documentOf (url : String) (code : Nat) (body : String) : Except StoreError Document :=
  if code = 200 ∨ code = 201 then successDocument url body
  else .error (.status code (errorMessage code body))

def Answer.document (url : String) (a : Answer) : Except StoreError Document :=
  match a.body with
  | .error e => .error (e.storeError url)
  | .ok bytes => documentOf url a.code ((charsetOf a.contentType).decode bytes)

/-- The admin token in an answer of the token service, whose code has to be a success. -/
def Answer.token (url : String) (a : Answer) : Except TokenError Token :=
  if a.code < 200 ∨ 300 ≤ a.code then
    .error ⟨url ++ " answered " ++ toString a.code ++ " " ++
      (reasonPhrase? a.code).getD "<unknown status code>"⟩
  else
    let value :=
      match a.body with
      | .error _ => none
      | .ok bytes => (Text.ofUtf8? bytes).bind fun s => (Json.parse s).toOption
    match value with
    | none => .error ⟨"undecodable token response: error decoding response body"⟩
    | some value =>
      match ((value.get? "results").bind (Json.get? "accessToken")).bind Json.text? with
      | some secret => .ok ⟨secret⟩
      | none => .error ⟨"token response carried no accessToken"⟩

end TwinCatalogue.Http
