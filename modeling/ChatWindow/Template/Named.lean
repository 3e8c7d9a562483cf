import ChatWindow.Template.Markup

/-!
# Templates by name

The chat markup, a few templates that show one aspect of a conversation, and four that are
broken. A named template answers for whatever goes wrong while it renders.
-/

namespace ChatWindow.Template

def failure (name : String) (count : Nat) (f : Failure) : Failure :=
  if f.isCancelled then f
  else
    .fit .render s!"Failed to render chat template '{name}'" [("message_count", .int count)]
      (some f)

def named (name : String) (render : Scene → Except Failure Text) : Template where
  render s := (render s).mapError (failure name s.messages.length)

def line (m : Message) : Text := m.content.toText ++ "\n"

def plain (s : Scene) : Except Failure Text := .ok (Text.join (s.messages.map line))

def roles (s : Scene) : Except Failure Text :=
  .ok (Text.join (s.messages.map fun m => Text.plain m.role.name ++ ":" ++ m.content.toText ++ ";"))

def options (s : Scene) : Except Failure Text :=
  .ok s!"{s.tools.length} {Value.boolWord s.think} {Value.boolWord s.thinkSet}"

def toolName : Value → Text
  | .record fields =>
    match Fields.get? fields "name" with
    | some v => v.toText
    | none => ""
  | _ => ""

def toolNames (s : Scene) : Except Failure Text :=
  .ok (Text.join (s.tools.map fun t => toolName t ++ " ") ++
    Text.join (s.messages.map fun m => m.content.toText ++ " "))

def nameLine (m : Message) : Text :=
  let role := m.role.name
  Text.plain s!"{role}/" ++ m.toolName.toText ++ s!"/{m.images.length}/{m.toolCalls.length} "

def names (s : Scene) : Except Failure Text := .ok (Text.join (s.messages.map nameLine))

def count (s : Scene) : Except Failure Text := .ok (toString s.messages.length)

def broken (f : TemplateFault) (_ : Scene) : Except Failure Text := .error (.badTemplate f)

def ofName? (name : String) : Option Template :=
  (body? name).map (named name)
where
  body? : String → Option (Scene → Except Failure Text)
    | "chatml" => some Markup.render
    | "plain" => some plain
    | "roles" => some roles
    | "options" => some options
    | "tools" => some toolNames
    | "names" => some names
    | "count" => some count
    | "bad" => some (broken (.noFilter "no_such_filter"))
    | "broken" => some (broken .noExpression)
    | "mutating" => some (broken (.unsafeAccess "append"))
    | "undefined" => some (broken (.noField "nope"))
    | _ => none

/-- The plain template, but for some numbers of messages it fails, and does not answer for it. -/
def failing (counts : List Int) (f : Failure) : Template where
  render s := if counts.contains s.messages.length then .error f else plain s

end ChatWindow.Template
