import ChatWindow.History
import ChatWindow.Proofs.Rereading

/-!
# Arguments that come as text

A call is read from a record, or from a part of an agent's history, and the arguments may be text in
both. Blank text stands for no arguments in both, what is no JSON is refused by both for the same
reason, and JSON of a record gives this record. JSON of anything else is where they part: a history
makes a record of it, with the value in a field, and from a record of a call the value itself is
taken, which is no record.
-/

namespace ChatWindow.ToolCall

/-- A record of a call, or one with such a record inside, whose arguments are the text. -/
structure Worded (fields inner : Fields) (name : Value) (s : Text) : Prop where
  within : (fields.get? "function").getD (.record fields) = .record inner
  named : inner.get? "name" = some name
  given : inner.get? "arguments" = some (.text s)

def recalled (p : Parlance) (name arguments id : Value) : Except Failure (List Message) :=
  History.messages p [.response [.toolCall name arguments id]]

def answer (c : ToolCall) : Message := { Message.ofText .assistant "" with toolCalls := [c] }

/-- Both refuse JSON, or both take the same call, whose arguments are a record. -/
def Agree (x : Except Failure ToolCall) (y : Except Failure (List Message)) : Prop :=
  (∃ f, x = .error (.badJson f) ∧ y = .error (.badJson f)) ∨
    ∃ c fields, c.arguments = .record fields ∧ x = .ok c ∧ y = .ok [answer c]

variable {fields inner : Fields} {name id : Value} {s : Text} (p : Parlance)

theorem readArguments_text (s : Text) : readArguments (.text s) =
    if s.codes.all Code.isBlank then .ok (.record []) else (Json.parse s).mapError .badJson := by
  by_cases hempty : s = ""
  · subst hempty
    rfl
  · have hfull : (Value.text s).truthy = true := bne_iff_ne.mpr hempty
    rw [readArguments, Value.orElse, if_pos hfull]

theorem recalled_of_ok {arguments v : Value}
    (h : ResponsePart.argumentRecord arguments = .ok v) :
    recalled p name arguments id = .ok [answer ⟨name, v, id⟩] := by
  simp only [recalled, History.messages, Turn.messages, Turn.responseMessage, ResponsePart.calls, h]
  rfl

theorem recalled_of_error {arguments : Value} {f : Failure}
    (h : ResponsePart.argumentRecord arguments = .error f) :
    recalled p name arguments id = .error f := by
  simp only [recalled, History.messages, Turn.messages, Turn.responseMessage, ResponsePart.calls, h]
  rfl

namespace Worded

theorem arguments_eq (h : Worded fields inner name s) : inner.getD "arguments" = .text s := by
  rw [Fields.getD, h.given]
  rfl

theorem ofValue_of_ok (h : Worded fields inner name s) {v : Value}
    (hread : readArguments (.text s) = .ok v) :
    ofValue (.record fields) = .ok ⟨name, v, fields.getD "id"⟩ :=
  ofValue_eq_ok h.within (h.arguments_eq ▸ hread) h.named

theorem ofValue_of_error (h : Worded fields inner name s) {f : Failure}
    (hread : readArguments (.text s) = .error f) : ofValue (.record fields) = .error f := by
  simp only [ofValue, Value.fieldsFor, bind, Except.bind, h.within, h.arguments_eq, hread]

theorem of_record (h : Worded fields inner name s) {arguments : Fields}
    (hs : (s.codes.all Code.isBlank = true ∧ arguments = []) ∨
      Json.parse s = .ok (.record arguments)) :
    ofValue (.record fields) = .ok ⟨name, .record arguments, fields.getD "id"⟩ ∧
      recalled p name (.text s) (fields.getD "id") =
        .ok [answer ⟨name, .record arguments, fields.getD "id"⟩] := by
  rcases hs with ⟨hblank, rfl⟩ | hparse
  · refine ⟨h.ofValue_of_ok ?_, recalled_of_ok p ?_⟩
    · rw [readArguments_text, if_pos hblank]
    · rw [ResponsePart.argumentRecord, if_pos hblank]
  · refine ⟨h.ofValue_of_ok (readArguments_of_parse hparse), recalled_of_ok p ?_⟩
    rw [ResponsePart.argumentRecord, Json.not_blank_of_parse hparse, hparse]
    rfl

theorem of_other (h : Worded fields inner name s) {v : Value} (hparse : Json.parse s = .ok v)
    (hv : ¬∃ arguments, v = .record arguments) :
    ofValue (.record fields) = .ok ⟨name, v, fields.getD "id"⟩ ∧
      recalled p name (.text s) (fields.getD "id") =
        .ok [answer ⟨name, .record [("value", v)], fields.getD "id"⟩] := by
  refine ⟨h.ofValue_of_ok (readArguments_of_parse hparse), recalled_of_ok p ?_⟩
  rw [ResponsePart.argumentRecord, Json.not_blank_of_parse hparse, hparse]
  cases v with
  | record arguments => exact absurd ⟨arguments, rfl⟩ hv
  | null | bool | int | real | text | bytes | list => rfl

theorem of_fault (h : Worded fields inner name s) (hblank : ¬s.codes.all Code.isBlank = true)
    {f : Json.Fault} (hparse : Json.parse s = .error f) :
    ofValue (.record fields) = .error (.badJson f) ∧
      recalled p name (.text s) (fields.getD "id") = .error (.badJson f) := by
  refine ⟨h.ofValue_of_error ?_, recalled_of_error p ?_⟩
  · rw [readArguments_text, if_neg hblank, hparse]
    rfl
  · rw [ResponsePart.argumentRecord, if_neg hblank, hparse]

theorem agree_of_regular (h : Worded fields inner name s)
    (hs : ∀ v, Json.parse s = .ok v → ∃ arguments, v = .record arguments) :
    Agree (ofValue (.record fields)) (recalled p name (.text s) (fields.getD "id")) := by
  by_cases hblank : s.codes.all Code.isBlank = true
  · exact .inr ⟨_, [], rfl, h.of_record p (.inl ⟨hblank, rfl⟩)⟩
  · cases hparse : Json.parse s with
    | error f => exact .inl ⟨f, h.of_fault p hblank hparse⟩
    | ok v =>
      obtain ⟨arguments, rfl⟩ := hs v hparse
      exact .inr ⟨_, arguments, rfl, h.of_record p (.inr hparse)⟩

theorem not_agree_of_other (h : Worded fields inner name s) {v : Value}
    (hparse : Json.parse s = .ok v) (hv : ¬∃ arguments, v = .record arguments) :
    ¬Agree (ofValue (.record fields)) (recalled p name (.text s) (fields.getD "id")) := by
  rw [(h.of_other p hparse hv).1]
  rintro (⟨f, hf, -⟩ | ⟨c, arguments, hc, hread, -⟩)
  · cases hf
  · cases hread
    exact hv ⟨arguments, hc⟩

end Worded

/-- A call with text for its arguments is read from its record as from a history, or refused by both
for the same reason, exactly if the text is not JSON of anything but a record; what is read are then
the arguments of the text. Of any other JSON the record of the call gives the value itself, and the
history a record with that value. -/
theorem arguments_agree (h : Worded fields inner name s) :
    (Agree (ofValue (.record fields)) (recalled p name (.text s) (fields.getD "id")) ↔
      ∀ v, Json.parse s = .ok v → ∃ arguments, v = .record arguments) ∧
    (∀ arguments, (s.codes.all Code.isBlank = true ∧ arguments = []) ∨
        Json.parse s = .ok (.record arguments) →
      ofValue (.record fields) = .ok ⟨name, .record arguments, fields.getD "id"⟩ ∧
        recalled p name (.text s) (fields.getD "id") =
          .ok [answer ⟨name, .record arguments, fields.getD "id"⟩]) ∧
    ∀ v, Json.parse s = .ok v → (¬∃ arguments, v = .record arguments) →
      ofValue (.record fields) = .ok ⟨name, v, fields.getD "id"⟩ ∧
        recalled p name (.text s) (fields.getD "id") =
          .ok [answer ⟨name, .record [("value", v)], fields.getD "id"⟩] := by
  refine ⟨⟨fun hagree v hparse => ?_, h.agree_of_regular p⟩, fun _ => h.of_record p,
    fun _ => h.of_other p⟩
  exact Classical.byContradiction fun hv => h.not_agree_of_other p hparse hv hagree

def corner : Fields := [("at", .list [.int 1, .null])]

def cornerText : String := "\x7b\"at\": [1, null]\x7d"

theorem parse_cornerText : Json.parse cornerText = .ok (.record corner) := by
  have hrender : Json.render (.record corner) = cornerText := rfl
  have hrecoverable : (Value.record corner).Recoverable :=
    .record (by decide) (by simp [corner]) (by simp [corner, Message.recoverable_corner])
  rw [← hrender]
  exact Json.parse_render hrecoverable

def cornerCall : Fields :=
  [("id", .text "c1"),
    ("function", .record [("name", .text "draw"), ("arguments", .text cornerText)])]

theorem arguments_agree_cornerCall :
    ofValue (.record cornerCall) = .ok ⟨.text "draw", .record corner, .text "c1"⟩ ∧
      recalled .compactJson (.text "draw") (.text cornerText) (.text "c1") =
        .ok [answer ⟨.text "draw", .record corner, .text "c1"⟩] := by
  have hworded : Worded cornerCall [("name", .text "draw"), ("arguments", .text cornerText)]
      (.text "draw") cornerText := ⟨rfl, rfl, rfl⟩
  exact (arguments_agree .compactJson hworded).2.1 corner (.inr parse_cornerText)

def listCall : Fields := [("name", .text "f"), ("arguments", .text "[1]")]

/-- From JSON of a list a record of a call gets the list, and a history a record with it. -/
theorem arguments_disagree_listCall :
    ofValue (.record listCall) = .ok ⟨.text "f", .list [.int 1], .null⟩ ∧
      recalled .compactJson (.text "f") (.text "[1]") .null =
        .ok [answer ⟨.text "f", .record [("value", .list [.int 1])], .null⟩] ∧
      ¬Agree (ofValue (.record listCall))
        (recalled .compactJson (.text "f") (.text "[1]") .null) := by
  have htext : Json.render (.list [.int 1]) = "[1]" := rfl
  have hrecoverable : (Value.list [.int 1]).Recoverable := .list (by simp [Value.Legible.int])
  have hparse : Json.parse "[1]" = .ok (.list [.int 1]) := by
    rw [← htext]
    exact Json.parse_render hrecoverable
  have hworded : Worded listCall listCall (.text "f") "[1]" := ⟨rfl, rfl, rfl⟩
  have hlist : ¬∃ arguments, Value.list [.int 1] = .record arguments := by
    rintro ⟨_, ⟨⟩⟩
  obtain ⟨hread, hrecalled⟩ := hworded.of_other .compactJson hparse hlist
  exact ⟨hread, hrecalled, hworded.not_agree_of_other .compactJson hparse hlist⟩

end ChatWindow.ToolCall
