import ChatWindow.Proofs.Record

/-!
# Records that are read, written and read again

A record may leave fields out, give null or something empty for them, put a call in a record of its
own or not, and give arguments as text or as a record. The message that is read has one form for all
of these, which is written and read back. There is one exception: an empty name, where no tool name
is given, becomes the tool name of the message, and what is written for that is read as no name.
-/

namespace ChatWindow

def Fields.OptionalText (fields : Fields) (key : Text) : Prop :=
  fields.getD key = .null ∨ ∃ s, fields.getD key = .text s

theorem Fields.required_eq_ok {fields : Fields} {key : Text} {v : Value} :
    fields.required key = .ok v ↔ fields.get? key = some v := by
  rw [required]
  cases fields.get? key <;> simp

namespace ToolCall

/-- A record with a name and arguments: none, a text or a record of values of JSON. -/
structure Spoken (inner : Fields) : Prop where
  name : ∀ v, inner.get? "name" = some v → v.equal v = true
  arguments : inner.getD "arguments" = .null ∨
    (∃ t, inner.getD "arguments" = .text t ∧ Json.Whole t) ∨
    ∃ fields, inner.getD "arguments" = .record fields ∧ (Value.record fields).Recoverable

/-- A call as such a record, or with one inside. -/
def Given (data : Value) : Prop :=
  ∃ fields : Fields, data = .record fields ∧ (fields.getD "id").equal (fields.getD "id") = true ∧
    ((fields.get? "function" = none ∧ Spoken fields) ∨
      ∃ inner, fields.get? "function" = some (.record inner) ∧ Spoken inner)

theorem recoverable_empty : (Value.record []).Recoverable :=
  .record List.nodup_nil (List.forall_mem_nil _) (List.forall_mem_nil _)

theorem recoverable_of_text {t : Text} (ht : Json.Whole t) {v : Value}
    (h : readArguments (.text t) = .ok v) : v.Recoverable := by
  rw [readArguments, Value.orElse] at h
  split at h
  · next hcontent =>
    split at hcontent
    · cases hcontent
      split at h
      · cases h
        exact recoverable_empty
      · exact ht v (mapError_eq_ok.mp h)
    · cases hcontent
  · next hother =>
    -- No text is left, so that the given one was empty.
    cases h
    split
    · next hfull => exact absurd (if_pos hfull) (hother t)
    · exact recoverable_empty

theorem Spoken.recoverable_arguments {inner : Fields} (h : Spoken inner) {v : Value}
    (hread : readArguments (inner.getD "arguments") = .ok v) : v.Recoverable := by
  rcases h.arguments with hnull | ⟨t, ht, hwhole⟩ | ⟨fields, hfields, hrecoverable⟩
  · rw [hnull] at hread
    cases hread
    exact recoverable_empty
  · rw [ht] at hread
    exact recoverable_of_text hwhole hread
  · rw [hfields] at hread
    cases fields with
    | nil =>
      cases hread
      exact recoverable_empty
    | cons p fields =>
      cases hread
      exact hrecoverable

theorem Given.restored {data : Value} (h : Given data) {c : ToolCall}
    (hread : ofValue data = .ok c) : c.Restored := by
  obtain ⟨fields, rfl, hid, hform⟩ := h
  obtain ⟨_, hfields, hread⟩ := bind_eq_ok.mp hread
  cases hfields
  obtain ⟨inner, hinner, hread⟩ := bind_eq_ok.mp hread
  obtain ⟨arguments, harguments, hread⟩ := bind_eq_ok.mp hread
  obtain ⟨name, hname, hread⟩ := bind_eq_ok.mp hread
  cases hread
  have hspoken : Spoken inner := by
    rcases hform with ⟨hflat, hspoken⟩ | ⟨nested, hnested, hspoken⟩
    · rw [hflat] at hinner
      cases hinner
      exact hspoken
    · rw [hnested] at hinner
      cases hinner
      exact hspoken
  have hself : name.equal name = true := hspoken.name name (Fields.required_eq_ok.mp hname)
  exact ⟨hself, hspoken.recoverable_arguments harguments, hid⟩

end ToolCall

namespace Message

/-- A record of the shape in which messages are given. Of the images nothing has to be said: those
that are read are byte strings. -/
structure Given (fields : Fields) : Prop where
  content : fields.OptionalText "content"
  toolName : fields.OptionalText "tool_name"
  name : fields.OptionalText "name"
  toolCalls : fields.getD "tool_calls" = .null ∨ ∃ calls, fields.getD "tool_calls" = .list calls ∧
    ∀ c ∈ calls, ToolCall.Given c

/-- There is an empty name, and nothing that comes before it. -/
def NamedByEmpty (fields : Fields) : Prop :=
  (fields.getD "tool_name").truthy = false ∧ fields.getD "name" = .text ""

variable {fields : Fields} {m : Message}

theorem exists_of_ofValue (h : ofValue (.record fields) = .ok m) :
    ∃ (role : Role) (images : List Bytes) (calls : List Value) (toolCalls : List ToolCall),
      (fields.getD "tool_calls").itemsOrNone = .ok calls ∧
      calls.mapM ToolCall.ofValue = .ok toolCalls ∧
      m = ⟨role, (fields.getD "content").orElse (.text ""), images.map .bytes, toolCalls,
        (fields.getD "tool_name").orElse (fields.getD "name")⟩ := by
  obtain ⟨_, hfields, h⟩ := bind_eq_ok.mp h
  cases hfields
  obtain ⟨_, -, h⟩ := bind_eq_ok.mp h
  obtain ⟨_, -, h⟩ := bind_eq_ok.mp h
  obtain ⟨images, -, h⟩ := bind_eq_ok.mp h
  obtain ⟨calls, hcalls, h⟩ := bind_eq_ok.mp h
  obtain ⟨toolCalls, hread, h⟩ := bind_eq_ok.mp h
  obtain ⟨role, -, h⟩ := bind_eq_ok.mp h
  cases h
  exact ⟨role, images, calls, toolCalls, hcalls, hread, rfl⟩

theorem Given.given_calls (h : Given fields) {calls : List Value}
    (hcalls : (fields.getD "tool_calls").itemsOrNone = .ok calls) :
    ∀ data ∈ calls, ToolCall.Given data := by
  rcases h.toolCalls with hnull | ⟨given, hlist, hall⟩
  · rw [hnull] at hcalls
    cases hcalls
    exact List.forall_mem_nil _
  · rw [hlist] at hcalls
    cases given with
    | nil =>
      cases hcalls
      exact List.forall_mem_nil _
    | cons first given =>
      cases hcalls
      exact hall

theorem Given.restored (hgiven : Given fields) (h : ofValue (.record fields) = .ok m) :
    m.Restored := by
  obtain ⟨role, images, calls, toolCalls, hcalls, hread, rfl⟩ := exists_of_ofValue h
  refine ⟨?_, ⟨images, rfl⟩, fun c hc => ?_⟩
  · dsimp only
    rcases hgiven.content with hnull | ⟨s, hs⟩
    · exact ⟨"", by rw [hnull]; rfl⟩
    · exact ⟨s, by rw [hs, orElse_empty]⟩
  · have hback := List.Forall₂.flip (mapM_eq_ok.mp hread)
    obtain ⟨data, hdata, hc'⟩ := exists_related_of_mem hback hc
    exact (hgiven.given_calls hcalls data hdata).restored hc'

theorem Given.toolName_cases (hgiven : Given fields) (h : ofValue (.record fields) = .ok m) :
    (m.toolName = .text "" ∧ NamedByEmpty fields) ∨
      (¬ NamedByEmpty fields ∧
        (m.toolName = .null ∨ ∃ s : Text, s ≠ "" ∧ m.toolName = .text s)) := by
  obtain ⟨role, images, calls, toolCalls, -, -, rfl⟩ := exists_of_ofValue h
  dsimp only
  by_cases hfull : (fields.getD "tool_name").truthy = true
  · refine .inr ⟨fun hnamed => Bool.noConfusion (hfull.symm.trans hnamed.1), .inr ?_⟩
    rw [Value.orElse, if_pos hfull]
    rcases hgiven.toolName with hnull | ⟨s, hs⟩
    · rw [hnull] at hfull
      cases hfull
    · rw [hs] at hfull ⊢
      exact ⟨s, bne_iff_ne.mp hfull, rfl⟩
  · rw [Value.orElse, if_neg hfull]
    rcases hgiven.name with hnull | ⟨s, hs⟩
    · rw [NamedByEmpty, hnull]
      refine .inr ⟨fun hnamed => ?_, .inl rfl⟩
      cases hnamed.2
    · rw [NamedByEmpty, hs]
      by_cases hs : s = ""
      · subst hs
        exact .inl ⟨rfl, Bool.eq_false_iff.mpr hfull, rfl⟩
      · exact .inr ⟨fun hnamed => hs (by cases hnamed.2; rfl), .inr ⟨s, hs, rfl⟩⟩

/-- A message that is read from a record can be written, and it is read again as it was unless an
empty name stands for its tool name. Then all of it is read again but that name. -/
theorem reread_given (hgiven : Given fields) (h : ofValue (.record fields) = .ok m) :
    ∃ v, m.toValue = .ok v ∧
      (¬ NamedByEmpty fields → ofValue v = .ok m ∧ m.equalIfReread = .ok true) ∧
      (NamedByEmpty fields → m.toolName = .text "" ∧
        ofValue v = .ok { m with toolName := .null } ∧ m.equalIfReread = .ok false) := by
  have hrestored := hgiven.restored h
  rcases hgiven.toolName_cases h with ⟨hempty, hnamed⟩ | ⟨hnot, hname⟩
  · obtain ⟨v, hwrite, hread⟩ := hrestored.exists_toValue
    have hequal := hrestored.equalIfReread_eq
    rw [hempty] at hread hequal
    exact ⟨v, hwrite, fun hnot => absurd hnamed hnot, fun _ => ⟨hempty, hread, hequal⟩⟩
  · obtain ⟨v, hwrite, hread⟩ := hrestored.reread hname
    exact ⟨v, hwrite, fun _ => hread, fun hnamed => absurd hnamed hnot⟩

def drawCall : Fields :=
  [("id", .text ""),
    ("function", .record [("name", .text "draw"), ("arguments", .text "[1, null]")])]

def stopCall : Fields := [("name", .text "stop"), ("arguments", .record [("now", .bool true)])]

def relayed : Fields :=
  [("role", .text "tool"), ("content", .null), ("name", .text "plan"),
    ("images", .list [.text "AQ==", .bytes [2]]),
    ("tool_calls", .list [.record drawCall, .record stopCall])]

def relayedMessage : Message where
  role := .tool
  content := .text ""
  images := [[1], [2]].map .bytes
  toolCalls := [⟨.text "draw", .list [.int 1, .null], .text ""⟩,
    ⟨.text "stop", .record [("now", .bool true)], .null⟩]
  toolName := .text "plan"

theorem recoverable_corner : (Value.list [.int 1, .null]).Recoverable :=
  .list (by simp [Value.Legible.int, Value.Legible.null])

theorem recoverable_now : (Value.record [("now", .bool true)]).Recoverable :=
  .record (by decide) (by simp) (by simp [Value.Legible.bool])

theorem ofValue_relayed : ofValue (.record relayed) = .ok relayedMessage := by
  have htext : Json.render (.list [.int 1, .null]) = "[1, null]" := rfl
  have hparse : Json.parse "[1, null]" = .ok (.list [.int 1, .null]) := by
    rw [← htext]
    exact Json.parse_render recoverable_corner
  have harguments : ToolCall.readArguments (.text "[1, null]") = .ok (.list [.int 1, .null]) :=
    ToolCall.readArguments_of_parse hparse
  have hdraw : ToolCall.ofValue (.record drawCall) =
      .ok ⟨.text "draw", .list [.int 1, .null], .text ""⟩ :=
    ToolCall.ofValue_eq_ok rfl harguments rfl
  have hstop : ToolCall.ofValue (.record stopCall) =
      .ok ⟨.text "stop", .record [("now", .bool true)], .null⟩ :=
    ToolCall.ofValue_eq_ok rfl rfl rfl
  have hcalls : [.record drawCall, .record stopCall].mapM ToolCall.ofValue =
      .ok relayedMessage.toolCalls := by
    rw [List.mapM_cons, hdraw, List.mapM_cons, hstop]
    rfl
  have hrole : relayed.get? "role" = some (.text "tool") := rfl
  have himages : [.text "AQ==", .bytes [2]].mapM imageBytes = .ok [[1], [2]] := rfl
  exact ofValue_eq_ok hrole rfl rfl himages rfl hcalls

theorem given_relayed : Given relayed where
  content := .inl rfl
  toolName := .inl rfl
  name := .inr ⟨"plan", rfl⟩
  toolCalls := by
    have hdraw : ToolCall.Spoken [("name", .text "draw"), ("arguments", .text "[1, null]")] :=
      ⟨fun v hv => by cases hv; rfl, .inr (.inl ⟨_, rfl, Json.whole_plain _⟩)⟩
    have hstop : ToolCall.Spoken stopCall :=
      ⟨fun v hv => by cases hv; rfl, .inr (.inr ⟨_, rfl, recoverable_now⟩)⟩
    refine .inr ⟨_, rfl, List.forall_mem_cons.mpr ⟨?_, List.forall_mem_singleton.mpr ?_⟩⟩
    · exact ⟨_, rfl, rfl, .inr ⟨_, rfl, hdraw⟩⟩
    · exact ⟨_, rfl, rfl, .inl ⟨rfl, hstop⟩⟩

theorem not_namedByEmpty_relayed : ¬ NamedByEmpty relayed := by
  intro h
  have hplan : Value.text "plan" = .text "" := h.2
  simp at hplan

theorem reread_given_relayed : ¬ NamedByEmpty relayed ∧
    ∃ v, relayedMessage.toValue = .ok v ∧ ofValue v = .ok relayedMessage ∧
      relayedMessage.equalIfReread = .ok true := by
  obtain ⟨v, hwrite, hsame, -⟩ := reread_given given_relayed ofValue_relayed
  exact ⟨not_namedByEmpty_relayed, v, hwrite, hsame not_namedByEmpty_relayed⟩

def namedByEmpty : Fields := [("role", .text "user"), ("content", .text "hi"), ("name", .text "")]

/-- A message with an empty name is not read from its record as it was. -/
theorem reread_namedByEmpty : ∃ m v, ofValue (.record namedByEmpty) = .ok m ∧
    m.toValue = .ok v ∧ ofValue v ≠ .ok m ∧ m.equalIfReread = .ok false := by
  refine ⟨⟨.user, .text "hi", [], [], .text ""⟩, _, rfl, rfl, ?_, rfl⟩
  intro hsame
  cases hsame

end Message

end ChatWindow
