import RowAccess.Http.Service
import RowAccess.Wire.Config

/-!
Contract: the JSON forms of requests to a service and of its replies.
-/

namespace RowAccess.Wire

def headerField (json : Json) : Decoded (String × String) := do
  let (name, value) ← pair json
  return (← text name, ← repeatedText value)

def httpCall (json : Json) : Decoded Http.Call := do
  let time ← optionalField "now" instant json
  let headers ← (listField "headers" json).mapM headerField
  let bound ← optionalField "session" principal json
  let respond ← optionalField "respond" count json
  let program ← optionalField "steps" (fun form => do handlerSteps (← list form)) json
  return {
    time := time
    request := ⟨← textField "method" json, headers, bound⟩
    throughGate := ((field? "middleware" json).bind Json.bool?).getD true
    program := program.map (fun steps => (steps, respond.getD 200)) }

def encodeAdmission (admission : Http.Admission) : Json :=
  Json.ofFields
    (("csrf_exempt", .bool admission.csrfExempt) ::
      ("bound", Json.ofOption encodePrincipal admission.bound) ::
      encodeContext admission.context)

def encodeReply (reply : Http.Reply) : Json :=
  Json.ofFields
    [("status", Json.integer reply.response.status),
     ("body", Json.ofOption (fun body => body) reply.response.body),
     ("handler", Json.ofOption encodeAdmission reply.admission),
     ("steps", .array (reply.transcript.map encodeEntry))]

end RowAccess.Wire
