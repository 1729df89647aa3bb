import PcdCatalog.Server

/-!
# The protocol of the server

A session is an exchange of messages, each a record on a line of its own. A
message with a number wants an answer under the same number, which holds a
result or an error; a message without one is only told. `Server.respond` is
the answer to a message.
-/

namespace PcdCatalog.Server

/-- The number of the error for a method that is not known. -/
def unknownMethod : Int := -32601

/-- An answer with a result. -/
def resultFor (id : Data) (result : Data) : Data :=
  .record [("jsonrpc", .text "2.0"), ("id", id), ("result", result)]

/-- An answer with an error. -/
def errorFor (id : Data) (code : Int) (message : String) : Data :=
  .record [("jsonrpc", .text "2.0"), ("id", id),
    ("error", .record [("code", .integer code), ("message", .text message)])]

/-- What a session begins with. -/
def welcome : Data :=
  .record [("protocolVersion", .text protocolVersion),
    ("capabilities", .record [("tools", .record [])]),
    ("serverInfo", .record [("name", .text name), ("title", .text title),
      ("version", .text version)]),
    ("instructions", .text instructions)]

/-- The list of tools. -/
def toolList : Data :=
  .record [("tools", .list (Tool.all.map fun t =>
    .record [("name", .text t.name), ("description", .text t.description),
      ("inputSchema", .record [("type", .text "object")])]))]

/-- The text of a tool as a result. -/
def textResult (s : String) : Data :=
  .record [("content", .list [.record [("type", .text "text"), ("text", .text s)]]),
    ("isError", .bool false)]

/-- Call the tool that a message asks for. -/
def answerCall (s : Server) (id params : Data) : Data :=
  let tool := ((params.get? "name").bind Data.text?).getD ""
  match s.call tool ((params.get? "arguments").getD .null) with
  | .ok text => resultFor id (textResult text)
  | .error f => errorFor id f.code (f.message?.getD "invalid call")

/-- **The answer to a message**, if it wants one. -/
def respond (s : Server) (message : Data) : Option Data :=
  match message.get? "id", (message.get? "method").bind Data.text? with
  | some id, some method =>
    some (match method with
      | "initialize" => resultFor id welcome
      | "ping" => resultFor id (.record [])
      | "tools/list" => resultFor id toolList
      | "tools/call" => s.answerCall id ((message.get? "params").getD .null)
      | _ => errorFor id unknownMethod method)
  | _, _ => none

end PcdCatalog.Server
