import ChatWindow.Proofs.Measure
import ChatWindow.Template.Markup

/-!
# What the markup is made of

A scene is rendered exactly if its tool definitions, and the names and arguments of its calls, can
be written as JSON. Then each definition and each call has its own place in the text, between what
the template puts around them.
-/

namespace ChatWindow

def Message.Embeddable (m : Message) : Prop :=
  ∀ c ∈ m.toolCalls, Json.plain c.name = true ∧ Json.plain c.arguments = true

namespace Markup

def toolBlock (lines : List (List Code)) : List Code :=
  if lines.isEmpty then []
  else startSign ++ Text.codes "system\n# Tools\n" ++ lines.flatMap (· ++ [.char '\n']) ++ endSign

def callText (c : ToolCall) : List Code :=
  callBody (Json.embedded c.name) (Json.embedded c.arguments)

def messageBlock (m : Message) (bodies : List (List Code)) : List Code :=
  startSign ++ Text.codes m.role.name ++ .char '\n' :: m.content.toText.codes ++
    bodies.flatMap (fun body => .char '\n' :: callStart ++ body ++ callEnd) ++ endSign

def assembled (s : Scene) (line : Value → List Code) (body : ToolCall → List Code) : List Code :=
  toolBlock (s.tools.map line) ++
    s.messages.flatMap (fun m => messageBlock m (m.toolCalls.map body)) ++ closing s

variable {cs : List Code}

theorem embed_eq_ok {v : Value} :
    embed v = .ok cs ↔ Json.plain v = true ∧ cs = Json.embedded v := by
  rw [embed]
  split
  · next hplain => simp [hplain, eq_comm]
  · next hplain => simp [hplain]

theorem call_eq_ok {c : ToolCall} : call c = .ok cs ↔
    (Json.plain c.name = true ∧ Json.plain c.arguments = true) ∧
      cs = .char '\n' :: callStart ++ callText c ++ callEnd := by
  simp only [call, bind_eq_ok, embed_eq_ok]
  constructor
  · rintro ⟨_, ⟨hname, rfl⟩, _, ⟨harguments, rfl⟩, ⟨⟩⟩
    exact ⟨⟨hname, harguments⟩, rfl⟩
  · rintro ⟨⟨hname, harguments⟩, rfl⟩
    exact ⟨_, ⟨hname, rfl⟩, _, ⟨harguments, rfl⟩, rfl⟩

theorem message_eq_ok {m : Message} : message m = .ok cs ↔
    m.Embeddable ∧ cs = messageBlock m (m.toolCalls.map callText) := by
  have hblock : messageBlock m (m.toolCalls.map callText) =
      startSign ++ Text.codes m.role.name ++ .char '\n' :: m.content.toText.codes ++
        (m.toolCalls.map fun c => .char '\n' :: callStart ++ callText c ++ callEnd).flatten ++
          endSign := by
    rw [messageBlock, List.flatMap_map, List.flatMap_def]
  simp only [message, bind_eq_ok, mapM_eq_map fun _ _ => call_eq_ok, hblock]
  constructor
  · rintro ⟨_, ⟨hm, rfl⟩, ⟨⟩⟩
    exact ⟨hm, rfl⟩
  · rintro ⟨hm, rfl⟩
    exact ⟨_, ⟨hm, rfl⟩, rfl⟩

theorem tools_eq_ok {definitions : List Value} : tools definitions = .ok cs ↔
    (∀ v ∈ definitions, Json.plain v = true) ∧ cs = toolBlock (definitions.map Json.embedded) := by
  cases definitions with
  | nil =>
    constructor
    · rintro ⟨⟩
      exact ⟨List.forall_mem_nil _, rfl⟩
    · rintro ⟨-, rfl⟩
      rfl
  | cons v definitions =>
    simp only [tools, List.isEmpty_cons, Bool.false_eq_true, if_false, bind_eq_ok,
      mapM_eq_map fun _ _ => embed_eq_ok]
    constructor
    · rintro ⟨_, ⟨hplain, rfl⟩, ⟨⟩⟩
      exact ⟨hplain, rfl⟩
    · rintro ⟨hplain, rfl⟩
      exact ⟨_, ⟨hplain, rfl⟩, rfl⟩

theorem renderCodes_eq_ok {s : Scene} : renderCodes s = .ok cs ↔
    ((∀ v ∈ s.tools, Json.plain v = true) ∧ ∀ m ∈ s.messages, m.Embeddable) ∧
      cs = assembled s Json.embedded callText := by
  simp only [renderCodes, bind_eq_ok, tools_eq_ok, mapM_eq_map fun _ _ => message_eq_ok]
  constructor
  · rintro ⟨_, ⟨htools, rfl⟩, _, ⟨hmessages, rfl⟩, ⟨⟩⟩
    exact ⟨⟨htools, hmessages⟩, by rw [assembled, List.flatMap_def]⟩
  · rintro ⟨⟨htools, hmessages⟩, rfl⟩
    refine ⟨_, ⟨htools, rfl⟩, _, ⟨hmessages, rfl⟩, ?_⟩
    rw [assembled, List.flatMap_def]
    rfl

end Markup

end ChatWindow
