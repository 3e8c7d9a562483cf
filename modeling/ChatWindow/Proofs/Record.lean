import ChatWindow.Message.Record
import ChatWindow.Proofs.Base64
import ChatWindow.Proofs.Json.Decoding

/-!
# Messages that are written as records

Fields that have nothing to say are left out of a record and are read leniently: what is absent,
null or empty is nothing. None of this loses anything of a message whose parts are of the kinds
they should be. Its images come back through base 64, the arguments of its calls through JSON.
-/

namespace ChatWindow

namespace Fields

theorem get?_of_mem {fields : Fields} (h : (fields.map Prod.fst).Nodup) {k : Text} {v : Value}
    (hmem : (k, v) ∈ fields) : fields.get? k = some v := by
  induction fields with
  | nil => cases hmem
  | cons p fields ih =>
    rw [List.map_cons, List.nodup_cons] at h
    obtain rfl | hmem := List.mem_cons.mp hmem
    · exact if_pos rfl
    · have hne : p.1 ≠ k := fun hk => h.1 (hk ▸ List.mem_map_of_mem hmem)
      rw [get?, if_neg hne]
      exact ih h.2 hmem

end Fields

namespace Value

theorem equalItems_self {xs : List Value} (h : ∀ x ∈ xs, x.equal x = true) :
    equalItems xs xs = true := by
  induction xs with
  | nil => rfl
  | cons x xs ih =>
    rw [List.forall_mem_cons] at h
    rw [equalItems, h.1, ih h.2]
    rfl

theorem equalFields_of_get? {fields others : Fields}
    (h : ∀ p ∈ fields, ∃ w, others.get? p.1 = some w ∧ p.2.equal w = true) :
    equalFields fields others = true := by
  induction fields with
  | nil => rfl
  | cons p fields ih =>
    rw [List.forall_mem_cons] at h
    obtain ⟨⟨w, hw, hequal⟩, hfields⟩ := h
    rw [equalFields, hw, ih hfields]
    dsimp only
    rw [hequal]
    rfl

theorem Legible.equal_self {word : Text → Prop} {v : Value} (h : v.Legible word) :
    v.equal v = true := by
  induction h with
  | null => rfl
  | bool b => cases b <;> rfl
  | int n => exact beq_self_eq_true n
  | real x => exact realEqual_self x
  | text => exact beq_self_eq_true _
  | list _ ih => exact equalItems_self ih
  | @record fields hdistinct _ _ ih =>
    rw [equal, beq_self_eq_true, Bool.true_and]
    exact equalFields_of_get? fun p hp => ⟨p.2, Fields.get?_of_mem hdistinct hp, ih p hp⟩

end Value

namespace Json

theorem plainItems_of_forall {xs : List Value} (h : ∀ x ∈ xs, plain x = true) :
    plainItems xs = true := by
  induction xs with
  | nil => rfl
  | cons x xs ih =>
    rw [List.forall_mem_cons] at h
    rw [plainItems, h.1, ih h.2]
    rfl

theorem plainFields_of_forall {fields : Fields} (h : ∀ p ∈ fields, plain p.2 = true) :
    plainFields fields = true := by
  induction fields with
  | nil => rfl
  | cons p fields ih =>
    rw [List.forall_mem_cons] at h
    rw [plainFields, h.1, ih h.2]
    rfl

theorem plain_of_legible {word : Text → Prop} {v : Value}
    (h : v.Legible word) : plain v = true := by
  induction h with
  | null | bool | int | real | text => rfl
  | list _ ih => exact plainItems_of_forall ih
  | record _ _ _ ih => exact plainFields_of_forall ih

end Json

theorem exists_mapM {α β : Type} {f : α → Except Failure β} {g : β → Except Failure α}
    {xs : List α} (h : ∀ x ∈ xs, ∃ y, f x = .ok y ∧ g y = .ok x) :
    ∃ ys, xs.mapM f = .ok ys ∧ ys.mapM g = .ok xs := by
  induction xs with
  | nil => exact ⟨[], rfl, rfl⟩
  | cons x xs ih =>
    rw [List.forall_mem_cons] at h
    obtain ⟨⟨y, hy, hx⟩, hrest⟩ := h
    obtain ⟨ys, hys, hxs⟩ := ih hrest
    refine ⟨y :: ys, ?_, ?_⟩
    · rw [List.mapM_cons, hy, hys]
      rfl
    · rw [List.mapM_cons, hx, hxs]
      rfl

namespace ToolCall

/-- A call by name, with a record of arguments and an identifier or none. -/
structure Typed (c : ToolCall) : Prop where
  name : ∃ s, c.name = .text s
  arguments : ∃ fields, c.arguments = .record fields
  recoverable : c.arguments.Recoverable
  id : c.id = .null ∨ ∃ s, c.id = .text s

structure Restored (c : ToolCall) : Prop where
  name : c.name.equal c.name = true
  arguments : c.arguments.Recoverable
  id : c.id.equal c.id = true

theorem Typed.restored {c : ToolCall} (h : c.Typed) : c.Restored := by
  refine ⟨?_, h.recoverable, ?_⟩
  · obtain ⟨s, hs⟩ := h.name
    rw [hs]
    exact beq_self_eq_true s
  · rcases h.id with hnull | ⟨t, ht⟩
    · rw [hnull]
      rfl
    · rw [ht]
      exact beq_self_eq_true t

theorem readArguments_of_parse {s : Text} {v : Value} (h : Json.parse s = .ok v) :
    readArguments (.text s) = .ok v := by
  have hblank : ¬ s.codes.all Code.isBlank = true := by
    rw [Json.not_blank_of_parse h]
    exact Bool.false_ne_true
  have hfull : (Value.text s).truthy = true := by
    apply bne_iff_ne.mpr
    rintro rfl
    exact hblank rfl
  rw [readArguments, Value.orElse, if_pos hfull]
  dsimp only
  rw [if_neg hblank, h]
  rfl

def written (c : ToolCall) (text : Text) : Fields :=
  let function : Fields := [("name", c.name), ("arguments", .text text)]
  let base : Fields := [("type", .text "function"), ("function", .record function)]
  base ++ Fields.omitIf c.id.isNull "id" c.id

theorem toValue_eq {c : ToolCall} {text : Text} (h : argumentText c.arguments = .ok text) :
    c.toValue = .ok (.record (c.written text)) := by
  rw [toValue, h]
  rfl

theorem getD_id_written (c : ToolCall) (text : Text) : (c.written text).getD "id" = c.id := by
  obtain ⟨name, arguments, id⟩ := c
  cases id <;> rfl

theorem ofValue_eq_ok {fields inner : Fields} {name arguments : Value}
    (hinner : (fields.get? "function").getD (.record fields) = .record inner)
    (harguments : readArguments (inner.getD "arguments") = .ok arguments)
    (hname : inner.get? "name" = some name) :
    ofValue (.record fields) = .ok ⟨name, arguments, fields.getD "id"⟩ := by
  simp only [ofValue, Value.fieldsFor, bind, Except.bind, hinner, harguments, Fields.required,
    hname]
  rfl

theorem ofValue_written {c : ToolCall} {text : Text} {arguments : Value}
    (h : readArguments (.text text) = .ok arguments) :
    ofValue (.record (c.written text)) = .ok ⟨c.name, arguments, c.id⟩ := by
  rw [← getD_id_written c text]
  exact ofValue_eq_ok rfl h rfl

theorem Restored.exists_toValue {c : ToolCall} (h : c.Restored) :
    ∃ v, c.toValue = .ok v ∧ ofValue v = .ok c := by
  have hplain : argumentText c.arguments = .ok (Json.render c.arguments) :=
    if_pos (Json.plain_of_legible h.arguments)
  have hread : readArguments (.text (Json.render c.arguments)) = .ok c.arguments :=
    readArguments_of_parse (Json.parse_render h.arguments)
  exact ⟨_, toValue_eq hplain, ofValue_written hread⟩

theorem Restored.equal_self {c : ToolCall} (h : c.Restored) : c.equal c = true := by
  rw [equal, h.name, h.arguments.equal_self, h.id]
  rfl

end ToolCall

namespace Message

/-- A message whose content is a text, whose images are byte strings and whose calls are what
calls should be. A tool name that is there is not empty. -/
structure Typed (m : Message) : Prop where
  content : ∃ s, m.content = .text s
  images : ∃ images : List Bytes, m.images = images.map .bytes
  toolCalls : ∀ c ∈ m.toolCalls, c.Typed
  toolName : m.toolName = .null ∨ ∃ s : Text, s ≠ "" ∧ m.toolName = .text s

structure Restored (m : Message) : Prop where
  content : ∃ s, m.content = .text s
  images : ∃ images : List Bytes, m.images = images.map .bytes
  toolCalls : ∀ c ∈ m.toolCalls, c.Restored

theorem Typed.restored {m : Message} (h : m.Typed) : m.Restored :=
  ⟨h.content, h.images, fun c hc => (h.toolCalls c hc).restored⟩

def written (m : Message) (images calls : List Value) : Fields :=
  let base : Fields := [("role", .text m.role.name), ("content", m.content)]
  base ++ Fields.omitIf images.isEmpty "images" (.list images) ++
    Fields.omitIf calls.isEmpty "tool_calls" (.list calls) ++
    Fields.omitIf m.toolName.isNull "tool_name" m.toolName

theorem toValue_eq {m : Message} {images calls : List Value}
    (himages : m.images.mapM imageText = .ok images)
    (hcalls : m.toolCalls.mapM ToolCall.toValue = .ok calls) :
    m.toValue = .ok (.record (m.written images calls)) := by
  rw [toValue, himages, hcalls]
  rfl

variable (m : Message) (images calls : List Value)

theorem getD_images_written :
    (m.written images calls).getD "images" = if images.isEmpty then .null else .list images := by
  rw [written]
  cases images <;> cases calls <;> cases m.toolName <;> rfl

theorem getD_tool_calls_written :
    (m.written images calls).getD "tool_calls" = if calls.isEmpty then .null else .list calls := by
  rw [written]
  cases images <;> cases calls <;> cases m.toolName <;> rfl

theorem getD_tool_name_written : (m.written images calls).getD "tool_name" = m.toolName := by
  rw [written]
  cases images <;> cases calls <;> cases m.toolName <;> rfl

theorem getD_name_written : (m.written images calls).getD "name" = .null := by
  rw [written]
  cases images <;> cases calls <;> cases m.toolName <;> rfl

theorem itemsOrNone_written (xs : List Value) :
    (if xs.isEmpty then Value.null else .list xs).itemsOrNone = .ok xs := by
  cases xs <;> rfl

theorem readRole_name (r : Role) : readRole (.text r.name) = .ok r := by
  cases r <;> rfl

theorem orElse_empty (s : Text) : (Value.text s).orElse (.text "") = .text s := by
  rw [Value.orElse]
  split
  · rfl
  · next h => rw [Classical.byContradiction fun hs => h (bne_iff_ne.mpr hs)]

variable {m images calls}

theorem ofValue_eq_ok {fields : Fields} {name : Value} {role : Role} {items values : List Value}
    {bytes : List Bytes} {toolCalls : List ToolCall}
    (hname : fields.get? "role" = some name) (hrole : readRole name = .ok role)
    (hitems : (fields.getD "images").itemsOrNone = .ok items)
    (himages : items.mapM imageBytes = .ok bytes)
    (hvalues : (fields.getD "tool_calls").itemsOrNone = .ok values)
    (hcalls : values.mapM ToolCall.ofValue = .ok toolCalls) :
    ofValue (.record fields) = .ok ⟨role, (fields.getD "content").orElse (.text ""),
      bytes.map .bytes, toolCalls, (fields.getD "tool_name").orElse (fields.getD "name")⟩ := by
  simp only [ofValue, Value.fieldsFor, bind, Except.bind, Fields.required, hname, hrole, hitems,
    himages, hvalues, hcalls]
  rfl

theorem Restored.ofValue_written (h : m.Restored) {read : List Bytes}
    (himages : images.mapM imageBytes = .ok read) (hread : read.map .bytes = m.images)
    (hcalls : calls.mapM ToolCall.ofValue = .ok m.toolCalls) :
    ofValue (.record (m.written images calls)) =
      .ok { m with toolName := m.toolName.orElse .null } := by
  obtain ⟨s, hs⟩ := h.content
  have hrole : (m.written images calls).get? "role" = some (.text m.role.name) := rfl
  have hitems : ((m.written images calls).getD "images").itemsOrNone = .ok images := by
    rw [getD_images_written, itemsOrNone_written]
  have hvalues : ((m.written images calls).getD "tool_calls").itemsOrNone = .ok calls := by
    rw [getD_tool_calls_written, itemsOrNone_written]
  have hcontent : ((m.written images calls).getD "content").orElse (.text "") = m.content := by
    have hwritten : (m.written images calls).getD "content" = m.content := rfl
    rw [hwritten, hs, orElse_empty]
  rw [ofValue_eq_ok hrole (readRole_name m.role) hitems himages hvalues hcalls, hcontent, hread,
    getD_tool_name_written, getD_name_written]

theorem exists_images (read : List Bytes) : ∃ images, (read.map Value.bytes).mapM imageText =
    .ok images ∧ images.mapM imageBytes = .ok read := by
  have hread : ∀ b ∈ read, ∃ v, imageText (.bytes b) = .ok v ∧ imageBytes v = .ok b := by
    intro b _
    refine ⟨_, rfl, ?_⟩
    rw [imageBytes, Base64.decode_encode]
    rfl
  rw [List.mapM_map]
  exact exists_mapM hread

theorem exists_calls {calls : List ToolCall} (h : ∀ c ∈ calls, c.Restored) :
    ∃ values, calls.mapM ToolCall.toValue = .ok values ∧
      values.mapM ToolCall.ofValue = .ok calls :=
  exists_mapM fun c hc => (h c hc).exists_toValue

theorem equalCalls_self {calls : List ToolCall} (h : ∀ c ∈ calls, c.Restored) :
    equalCalls calls calls = true := by
  induction calls with
  | nil => rfl
  | cons c calls ih =>
    rw [List.forall_mem_cons] at h
    rw [equalCalls, h.1.equal_self, ih h.2]
    rfl

/-- Writing a message succeeds, and all of it but an empty tool name is read from its record. -/
theorem Restored.exists_toValue (h : m.Restored) : ∃ v, m.toValue = .ok v ∧
    ofValue v = .ok { m with toolName := m.toolName.orElse .null } := by
  obtain ⟨read, hread⟩ := h.images
  obtain ⟨images, himages, hbytes⟩ := exists_images read
  obtain ⟨calls, hcalls, hback⟩ := exists_calls h.toolCalls
  rw [← hread] at himages
  exact ⟨_, toValue_eq himages hcalls, h.ofValue_written hbytes hread.symm hback⟩

theorem Restored.equal_toolName (h : m.Restored) (name : Value) :
    Message.equal { m with toolName := name } m = name.equal m.toolName := by
  obtain ⟨s, hs⟩ := h.content
  obtain ⟨read, hread⟩ := h.images
  have hcontent : m.content.equal m.content = true := by
    rw [hs]
    exact beq_self_eq_true s
  have himages : Value.equalItems m.images m.images = true := by
    refine Value.equalItems_self fun v hv => ?_
    rw [hread] at hv
    obtain ⟨b, -, rfl⟩ := List.mem_map.mp hv
    exact beq_self_eq_true b
  rw [equal, beq_self_eq_true, hcontent, himages, equalCalls_self h.toolCalls]
  rfl

theorem Restored.equalIfReread_eq (h : m.Restored) :
    m.equalIfReread = .ok ((m.toolName.orElse .null).equal m.toolName) := by
  obtain ⟨v, hwrite, hread⟩ := h.exists_toValue
  rw [equalIfReread, hwrite]
  simp only [bind, Except.bind, hread, h.equal_toolName]
  rfl

theorem Restored.reread (h : m.Restored)
    (hname : m.toolName = .null ∨ ∃ s : Text, s ≠ "" ∧ m.toolName = .text s) :
    ∃ v, m.toValue = .ok v ∧ ofValue v = .ok m ∧ m.equalIfReread = .ok true := by
  have hfallback : m.toolName.orElse .null = m.toolName := by
    obtain hnull | ⟨s, hs, hname⟩ := hname
    · rw [hnull]
      rfl
    · rw [hname]
      exact if_pos (bne_iff_ne.mpr hs)
  have hself : m.toolName.equal m.toolName = true := by
    obtain hnull | ⟨s, -, hname⟩ := hname
    · rw [hnull]
      rfl
    · rw [hname]
      exact beq_self_eq_true s
  obtain ⟨v, hwrite, hread⟩ := h.exists_toValue
  have hequal := h.equalIfReread_eq
  rw [hfallback] at hread hequal
  rw [hself] at hequal
  exact ⟨v, hwrite, hread, hequal⟩

/-- Writing a message succeeds, and what is read from its record is the message. -/
theorem ofValue_toValue (h : m.Typed) :
    ∃ v, m.toValue = .ok v ∧ ofValue v = .ok m ∧ m.equalIfReread = .ok true :=
  h.restored.reread h.toolName

def drawArguments : Fields :=
  [("corners", .list [.int (-3), .int 0, .null]), ("title", .text "\"n\u00e9\" \\"),
    ("style", .record [("filled", .bool true)])]

theorem recoverable_drawArguments : (Value.record drawArguments).Recoverable := by
  have hcorners : (Value.list [.int (-3), .int 0, .null]).Recoverable :=
    .list (by simp [Value.Legible.int, Value.Legible.null])
  have hstyle : (Value.record [("filled", .bool true)]).Recoverable :=
    .record (by decide) (by simp) (by simp [Value.Legible.bool])
  exact .record (by decide) (by simp [drawArguments])
    (by simp [drawArguments, hcorners, hstyle, Value.Legible.text])

def drawnPlan : Message where
  role := .tool
  content := .text ""
  images := [[], [0], [1, 254], [255, 0, 16]].map .bytes
  toolCalls := [⟨.text "draw", .record drawArguments, .text ""⟩,
    ⟨.text "stop", .record [], .null⟩]
  toolName := .text "plan"

theorem typed_drawnPlan : drawnPlan.Typed where
  content := ⟨"", rfl⟩
  images := ⟨_, rfl⟩
  toolCalls := by
    have hdraw : ToolCall.Typed ⟨.text "draw", .record drawArguments, .text ""⟩ :=
      ⟨⟨"draw", rfl⟩, ⟨_, rfl⟩, recoverable_drawArguments, .inr ⟨"", rfl⟩⟩
    have hstop : ToolCall.Typed ⟨.text "stop", .record [], .null⟩ :=
      ⟨⟨"stop", rfl⟩, ⟨[], rfl⟩, .record (by decide) (by simp) (by simp), .inl rfl⟩
    exact List.forall_mem_cons.mpr ⟨hdraw, List.forall_mem_singleton.mpr hstop⟩
  toolName := .inr ⟨"plan", by decide, rfl⟩

theorem ofValue_toValue_drawnPlan : drawnPlan.Typed ∧
    ∃ v, drawnPlan.toValue = .ok v ∧ ofValue v = .ok drawnPlan ∧
      drawnPlan.equalIfReread = .ok true :=
  ⟨typed_drawnPlan, ofValue_toValue typed_drawnPlan⟩

end Message

end ChatWindow
