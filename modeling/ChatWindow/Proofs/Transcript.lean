import ChatWindow.History
import ChatWindow.Proofs.Pieces
import ChatWindow.Proofs.Measure

/-!
# The messages of a history

A relation says which messages a turn gives: every part of a request that is supported has one,
behind the instructions if there are any, and a response has one for all its parts. Going through a
history is giving the messages of its turns one behind the other. So nothing of it is lost, repeated
or moved: the images stand with the user, the calls and the texts of answers with the assistant, in
the order of the history.
-/

namespace ChatWindow

theorem Value.isNull_iff {v : Value} : v.isNull = true ↔ v = .null := by
  cases v <;> simp [isNull]

/-! ## What the parts hold -/

variable (p : Parlance)

namespace ContentItem

def said : ContentItem → List Text
  | .text s => [s]
  | _ => []

def pictured : ContentItem → List Bytes
  | .binary data mediaType => if p.isImage data mediaType then [data] else []
  | _ => []

end ContentItem

namespace RequestPart

def supported : RequestPart → Bool
  | .unsupported _ => false
  | _ => true

def pictured : RequestPart → List Bytes
  | .user (.items items) => items.flatMap (ContentItem.pictured p)
  | _ => []

/-- The message of a part. A retry is the output of a tool if it names one. -/
inductive Speaks : RequestPart → Message → Prop
  | system (text : Text) : Speaks (.system text) ⟨.system, .text text, [], [], .null⟩
  | said (text : Text) : Speaks (.user (.text text)) ⟨.user, .text text, [], [], .null⟩
  | shown (items : List ContentItem) : Speaks (.user (.items items))
      ⟨.user, .text (Text.intercalate "\n" (items.flatMap ContentItem.said)),
        (items.flatMap (ContentItem.pictured p)).map .bytes, [], .null⟩
  | returned (tool content : Value) (failed : Bool) : Speaks (.toolReturn tool content failed)
      ⟨.tool, .text (p.returned tool content failed), [], [], tool⟩
  | retried {tool : Value} (content : RetryContent) : tool ≠ .null →
      Speaks (.retry tool content) ⟨.tool, .text (p.retried tool content), [], [], tool⟩
  | advised (content : RetryContent) : Speaks (.retry .null content)
      ⟨.user, .text (p.retried .null content), [], [], .null⟩

end RequestPart

namespace ResponsePart

def isCall : ResponsePart → Bool
  | .toolCall .. => true
  | _ => false

def said : ResponsePart → List Text
  | .text s => [s]
  | _ => []

def called : ResponsePart → List (Value × Value)
  | .toolCall name _ id => [(name, id)]
  | _ => []

inductive Calls : ResponsePart → ToolCall → Prop
  | read {name arguments id v : Value} : argumentRecord arguments = .ok v →
      Calls (.toolCall name arguments id) ⟨name, v, id⟩

end ResponsePart

namespace Turn

inductive Gives : Turn → List Message → Prop
  | request {parts : List RequestPart} {ms : List Message} :
      List.Forall₂ (RequestPart.Speaks p) (parts.filter RequestPart.supported) ms →
      Gives (.request "" parts) ms
  | instructed {instructions : Text} {parts : List RequestPart} {ms : List Message} :
      instructions ≠ "" →
      List.Forall₂ (RequestPart.Speaks p) (parts.filter RequestPart.supported) ms →
      Gives (.request instructions parts) (⟨.system, .text instructions, [], [], .null⟩ :: ms)
  | response {parts : List ResponsePart} {calls : List ToolCall} :
      List.Forall₂ ResponsePart.Calls (parts.filter ResponsePart.isCall) calls →
      Gives (.response parts)
        [⟨.assistant, .text (Text.join (parts.flatMap ResponsePart.said)), [], calls, .null⟩]
  | other : Gives .other []

def pictured : Turn → List Bytes
  | .request _ parts => parts.flatMap (RequestPart.pictured p)
  | _ => []

def called : Turn → List (Value × Value)
  | .response parts => parts.flatMap ResponsePart.called
  | _ => []

def answered : Turn → List Text
  | .response parts => [Text.join (parts.flatMap ResponsePart.said)]
  | _ => []

end Turn

/-! ## The messages that are given -/

variable {p}

namespace ContentItem

theorem toList_text? (item : ContentItem) : item.text?.toList = item.said := by
  cases item <;> rfl

theorem toList_image? (item : ContentItem) : (item.image? p).toList = item.pictured p := by
  cases item with
  | binary data mediaType =>
    rw [image?, pictured]
    split <;> rfl
  | text | other => rfl

theorem filterMap_text? (items : List ContentItem) :
    items.filterMap text? = items.flatMap said := by
  simp only [List.filterMap_eq_flatMap_toList, toList_text?]

theorem filterMap_image? (items : List ContentItem) :
    items.filterMap (image? p) = items.flatMap (pictured p) := by
  simp only [List.filterMap_eq_flatMap_toList, toList_image?]

end ContentItem

namespace RequestPart

variable {part : RequestPart} {parts : List RequestPart} {ms : List Message}

theorem supported_eq (p : Parlance) (part : RequestPart) :
    part.supported = (part.message? p).isSome := by
  cases part with
  | retry tool content =>
    rw [message?]
    split <;> rfl
  | system | user | toolReturn | unsupported => rfl

theorem message_items (items : List ContentItem) : (UserContent.items items).message p =
    ⟨.user, .text (Text.intercalate "\n" (items.flatMap ContentItem.said)),
      (items.flatMap (ContentItem.pictured p)).map .bytes, [], .null⟩ := by
  rw [UserContent.message, ContentItem.filterMap_text?, ContentItem.filterMap_image?]
  rfl

theorem speaks_iff {m : Message} : part.Speaks p m ↔ part.message? p = some m := by
  constructor
  · intro h
    cases h with
    | system text => rfl
    | said text => rfl
    | shown items => rw [message?, message_items]
    | returned tool content failed => rfl
    | retried content htool =>
      rw [message?, if_neg fun hnull => htool (Value.isNull_iff.mp hnull)]
      rfl
    | advised content => rfl
  · intro h
    cases part with
    | system text =>
      cases h
      exact .system text
    | user content =>
      cases h
      cases content with
      | text text => exact .said text
      | items items =>
        rw [message_items]
        exact .shown items
    | toolReturn tool content failed =>
      cases h
      exact .returned tool content failed
    | retry tool content =>
      rw [message?] at h
      split at h
      · next hnull =>
        cases h
        obtain rfl := Value.isNull_iff.mp hnull
        exact .advised content
      · next hsome =>
        cases h
        exact .retried content fun hnull => hsome (Value.isNull_iff.mpr hnull)
    | unsupported name => cases h

theorem forall₂_speaks_iff :
    List.Forall₂ (Speaks p) (parts.filter supported) ms ↔ ms = parts.filterMap (message? p) := by
  induction parts generalizing ms with
  | nil => simp
  | cons part parts ih =>
    rw [List.filter_cons, List.filterMap_cons, supported_eq p]
    cases hpart : part.message? p with
    | none => simpa using ih
    | some m => simp [List.forall₂_cons_left_iff, speaks_iff, hpart, ih]

end RequestPart

namespace ResponsePart

theorem toList_text? (p : ResponsePart) : p.text?.toList = p.said := by
  cases p <;> rfl

theorem filterMap_text? (parts : List ResponsePart) :
    parts.filterMap text? = parts.flatMap said := by
  simp only [List.filterMap_eq_flatMap_toList, toList_text?]

theorem calls_iff {name arguments id : Value} {c : ToolCall} :
    (toolCall name arguments id).Calls c ↔
      ∃ v, argumentRecord arguments = .ok v ∧ c = ⟨name, v, id⟩ := by
  constructor
  · rintro ⟨hv⟩
    exact ⟨_, hv, rfl⟩
  · rintro ⟨v, hv, rfl⟩
    exact .read hv

theorem calls_eq_ok {parts : List ResponsePart} {cs : List ToolCall} :
    calls parts = .ok cs ↔ List.Forall₂ Calls (parts.filter isCall) cs := by
  induction parts generalizing cs with
  | nil => simp [calls, eq_comm]
  | cons p parts ih =>
    cases p with
    | toolCall name arguments id =>
      simp only [calls, bind_eq_ok, ih, List.filter_cons, isCall, if_true,
        List.forall₂_cons_left_iff, calls_iff]
      constructor
      · rintro ⟨v, hv, others, hothers, ⟨⟩⟩
        exact ⟨_, others, ⟨v, hv, rfl⟩, hothers, rfl⟩
      · rintro ⟨_, others, ⟨v, hv, rfl⟩, hothers, rfl⟩
        exact ⟨v, hv, others, hothers, rfl⟩
    | text s => exact ih
    | other => exact ih

end ResponsePart

namespace Turn

theorem messages_eq_ok {t : Turn} {ms : List Message} :
    t.messages p = .ok ms ↔ t.Gives p ms := by
  constructor
  · intro h
    cases t with
    | request instructions parts =>
      cases h
      have hparts : List.Forall₂ (RequestPart.Speaks p) (parts.filter RequestPart.supported)
          (parts.filterMap (RequestPart.message? p)) := RequestPart.forall₂_speaks_iff.mpr rfl
      rw [instructionMessages]
      split
      · next hnone =>
        subst hnone
        exact .request hparts
      · next hsome => exact .instructed hsome hparts
    | response parts =>
      obtain ⟨m, hm, rfl⟩ := map_eq_ok.mp h
      obtain ⟨calls, hcalls, h⟩ := bind_eq_ok.mp hm
      cases h
      rw [ResponsePart.filterMap_text?]
      exact .response (ResponsePart.calls_eq_ok.mp hcalls)
    | other =>
      cases h
      exact .other
  · intro h
    cases h with
    | request hparts =>
      rw [RequestPart.forall₂_speaks_iff.mp hparts]
      rfl
    | instructed hsome hparts =>
      rw [RequestPart.forall₂_speaks_iff.mp hparts, messages, instructionMessages, if_neg hsome]
      rfl
    | response hcalls =>
      rw [messages, responseMessage, ResponsePart.calls_eq_ok.mpr hcalls,
        ResponsePart.filterMap_text?]
      rfl
    | other => rfl

end Turn

namespace History

theorem messages_eq (h : List Turn) :
    messages p h = (h.mapM (Turn.messages p)).map List.flatten := by
  induction h with
  | nil => rfl
  | cons t h ih =>
    rw [messages, ih, List.mapM_cons]
    cases t.messages p with
    | error f => rfl
    | ok ms => cases h.mapM (Turn.messages p) <;> rfl

theorem messages_eq_ok {h : List Turn} {ms : List Message} : messages p h = .ok ms ↔
    ∃ groups, List.Forall₂ (Turn.Gives p) h groups ∧ ms = groups.flatten := by
  simp only [messages_eq, map_eq_ok, mapM_eq_ok, Turn.messages_eq_ok, eq_comm (a := ms)]

theorem messages_append (h g : List Turn) : messages p (h ++ g) = do
    let before ← messages p h
    let after ← messages p g
    return before ++ after := by
  simp only [messages_eq, List.mapM_append]
  cases h.mapM (Turn.messages p) with
  | error f => rfl
  | ok before =>
    cases g.mapM (Turn.messages p) with
    | error f => rfl
    | ok after => exact congrArg Except.ok List.flatten_append

end History

/-! ## What the messages hold -/

/-- The messages hold exactly these images with the user, and exactly these calls and answers with
the assistant, in this order. -/
structure Bears (pictures : List Bytes) (calls : List (Value × Value)) (answers : List Text)
    (ms : List Message) : Prop where
  pictures : (ms.filter (·.role = .user)).flatMap Message.images = pictures.map .bytes
  calls : ((ms.filter (·.role = .assistant)).flatMap Message.toolCalls).map
    (fun c => (c.name, c.id)) = calls
  answers : (ms.filter (·.role = .assistant)).map Message.content = answers.map .text
  elsewhere : ∀ m ∈ ms, (m.role ≠ .user → m.images = []) ∧ (m.role ≠ .assistant → m.toolCalls = [])

theorem bears_nil : Bears [] [] [] [] := ⟨rfl, rfl, rfl, List.forall_mem_nil _⟩

theorem Bears.append {pictures others : List Bytes} {calls calls' : List (Value × Value)}
    {answers answers' : List Text} {ms ns : List Message} (hms : Bears pictures calls answers ms)
    (hns : Bears others calls' answers' ns) :
    Bears (pictures ++ others) (calls ++ calls') (answers ++ answers') (ms ++ ns) where
  pictures := by
    rw [List.filter_append, List.flatMap_append, List.map_append, hms.pictures, hns.pictures]
  calls := by
    rw [List.filter_append, List.flatMap_append, List.map_append, hms.calls, hns.calls]
  answers := by
    rw [List.filter_append, List.map_append, List.map_append, hms.answers, hns.answers]
  elsewhere := List.forall_mem_append.mpr ⟨hms.elsewhere, hns.elsewhere⟩

theorem bears_text (r : Role) (content : Value) (toolName : Value) (h : r ≠ .assistant) :
    Bears [] [] [] [⟨r, content, [], [], toolName⟩] := by
  cases r with
  | assistant => exact absurd rfl h
  | system | user | tool => exact ⟨rfl, rfl, rfl, by simp⟩

theorem RequestPart.Speaks.bears {part : RequestPart} {m : Message} (h : part.Speaks p m) :
    Bears (part.pictured p) [] [] [m] := by
  cases h with
  | shown items => exact ⟨by simp [pictured], rfl, rfl, by simp⟩
  | system | said | returned | retried | advised => exact bears_text _ _ _ (by decide)

theorem RequestPart.pictured_of_not_supported {part : RequestPart}
    (h : ¬part.supported = true) : part.pictured p = [] := by
  cases part with
  | unsupported name => rfl
  | system | user | toolReturn | retry => exact absurd rfl h

theorem RequestPart.bears_filter {parts : List RequestPart} {ms : List Message}
    (h : List.Forall₂ (Speaks p) (parts.filter supported) ms) :
    Bears (parts.flatMap (pictured p)) [] [] ms := by
  induction parts generalizing ms with
  | nil =>
    cases h
    exact bears_nil
  | cons part parts ih =>
    rw [List.flatMap_cons]
    by_cases hpart : part.supported = true
    · rw [List.filter_cons_of_pos hpart] at h
      cases h with
      | cons hm hms => exact hm.bears.append (ih hms)
    · -- The part is passed over, and nothing is lost with it.
      rw [List.filter_cons_of_neg hpart] at h
      rw [pictured_of_not_supported hpart]
      exact ih h

theorem ResponsePart.map_called {parts : List ResponsePart} {calls : List ToolCall}
    (h : List.Forall₂ Calls (parts.filter isCall) calls) :
    calls.map (fun c => (c.name, c.id)) = parts.flatMap called := by
  induction parts generalizing calls with
  | nil =>
    cases h
    rfl
  | cons p parts ih =>
    cases p with
    | toolCall name arguments id =>
      rw [List.filter_cons_of_pos rfl] at h
      cases h with
      | cons hc hcs =>
        cases hc
        rw [List.map_cons, ih hcs, List.flatMap_cons]
        rfl
    | text | other => exact ih h

theorem Turn.Gives.bears {t : Turn} {ms : List Message} (h : t.Gives p ms) :
    Bears (t.pictured p) t.called t.answered ms := by
  cases h with
  | request hparts => exact RequestPart.bears_filter hparts
  | instructed _ hparts =>
    exact (bears_text _ _ _ (by decide)).append (RequestPart.bears_filter hparts)
  | response hcalls => exact ⟨rfl, by simp [ResponsePart.map_called hcalls, called], rfl, by simp⟩
  | other => exact bears_nil

theorem History.bears {h : List Turn} {groups : List (List Message)}
    (hgroups : List.Forall₂ (Turn.Gives p) h groups) :
    Bears (h.flatMap (Turn.pictured p)) (h.flatMap Turn.called) (h.flatMap Turn.answered)
      groups.flatten := by
  induction hgroups with
  | nil => exact bears_nil
  | cons hturn _ ih => exact hturn.bears.append ih

/-- Whatever the library says of the parts, a history is gone through exactly if every turn gives
its messages, and it gives these one behind the other: one for the instructions of a request if
there are any, one for each part of it that is supported, in the order of the parts, and one for
each response. So one history behind another gives the messages of both. All images of users, all
calls and all texts of answers are in the messages, each once, in the order of the history, and
with nothing besides. -/
theorem History.messages_tell (p : Parlance) (h : List Turn) :
    (∀ ms, messages p h = .ok ms ↔
      ∃ groups, List.Forall₂ (Turn.Gives p) h groups ∧ ms = groups.flatten) ∧
    (∀ g, messages p (h ++ g) = do return (← messages p h) ++ (← messages p g)) ∧
    ∀ ms, messages p h = .ok ms →
      Bears (h.flatMap (Turn.pictured p)) (h.flatMap Turn.called) (h.flatMap Turn.answered) ms := by
  refine ⟨fun ms => messages_eq_ok, messages_append h, fun ms hms => ?_⟩
  obtain ⟨groups, hgroups, rfl⟩ := messages_eq_ok.mp hms
  exact bears hgroups

def lookedUp : List Turn :=
  [.request "Be brief."
      [.system "You see.",
        .user (.items [.text "Look", .binary [1] "image/png", .binary [2] "audio/wav",
          .other "ImageUrl", .text "here"]),
        .unsupported "InstructionPart"],
    .response [.text "One ", .toolCall (.text "look") (.record [("at", .int 1)]) (.text "c1"),
      .other, .text "moment"],
    .request ""
      [.toolReturn (.text "look") (.text "a cat") false, .retry .null (.text "Shorter"),
        .retry (.text "look") (.text "Closer"), .user (.items [.binary [3] "image/jpeg"])],
    .response [.text "A cat."]]

def lookedUpMessages : List Message :=
  [.ofText .system "Be brief.", .ofText .system "You see.",
    { Message.ofText .user "Look\nhere" with images := [.bytes [1]] },
    { Message.ofText .assistant "One moment" with
      toolCalls := [⟨.text "look", .record [("at", .int 1)], .text "c1"⟩] },
    { Message.ofText .tool "a cat" with toolName := .text "look" },
    .ofText .user "Validation feedback:\nShorter\n\nFix the errors and try again.",
    { Message.ofText .tool "Closer\n\nFix the errors and try again." with
      toolName := .text "look" },
    { Message.ofText .user "" with images := [.bytes [3]] },
    .ofText .assistant "A cat."]

theorem History.messages_tell_lookedUp : messages .compactJson lookedUp = .ok lookedUpMessages ∧
    Bears [[1], [3]] [(.text "look", .text "c1")] ["One moment", "A cat."] lookedUpMessages := by
  have hmessages : messages .compactJson lookedUp = .ok lookedUpMessages := rfl
  exact ⟨hmessages, (messages_tell .compactJson lookedUp).2.2 lookedUpMessages hmessages⟩

end ChatWindow
