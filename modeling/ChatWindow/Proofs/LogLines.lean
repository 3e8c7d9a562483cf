import ChatWindow.Log.Logger
import ChatWindow.Proofs.Json.Embedding

/-!
# Lines of a log

An entry is written as one line of JSON, in which the extra fields stand beside those of every
entry. The names are shared: a field that is set again has the value that was set last. So an extra
field is read from the line as it was given, and the level and the name of the logger are read if no
extra field has taken their place.
-/

namespace ChatWindow

namespace Fields

variable {fields extras : Fields}

theorem nodup_foldl_set (hfields : (fields.map Prod.fst).Nodup) (extras : Fields) :
    ((extras.foldl (fun fields p => fields.set p.1 p.2) fields).map Prod.fst).Nodup := by
  induction extras generalizing fields with
  | nil => exact hfields
  | cons p extras ih => exact ih (nodup_set hfields p.1 p.2)

theorem mem_of_mem_foldl_set {p : Text × Value}
    (h : p ∈ extras.foldl (fun fields p => fields.set p.1 p.2) fields) :
    p ∈ fields ∨ p ∈ extras := by
  induction extras generalizing fields with
  | nil => exact .inl h
  | cons q extras ih =>
    rcases ih h with hset | hextra
    · rcases mem_of_mem_set hset with hfield | rfl
      · exact .inl hfield
      · exact .inr List.mem_cons_self
    · exact .inr (List.mem_cons_of_mem q hextra)

end Fields

namespace Log.Entry

structure Unsplit (e : Entry) (message : Text) : Prop where
  message : message.Unsplit
  logger : e.logger.Unsplit
  extras : (Value.record e.extras).Recoverable

variable {e : Entry} {time : Option Text} {message : Text}

theorem nodup_ownFields (e : Entry) (time : Option Text) (message : Text) :
    ((e.ownFields time message).map Prod.fst).Nodup := by
  cases time <;> simp [ownFields]

theorem nodup_fields (e : Entry) (time : Option Text) (message : Text) :
    ((e.fields time message).map Prod.fst).Nodup :=
  Fields.nodup_foldl_set (nodup_ownFields e time message) _

theorem mem_of_mem_fields {p : Text × Value} (hp : p ∈ e.fields time message) :
    p ∈ e.ownFields time message ∨ p ∈ e.extras :=
  (Fields.mem_of_mem_foldl_set hp).imp_right List.mem_of_mem_filter

theorem Unsplit.recoverable_ownFields (h : e.Unsplit message) (htime : ∀ t ∈ time, t.Unsplit) :
    ∀ p ∈ e.ownFields time message, p.1.Unsplit ∧ p.2.Recoverable := by
  have hlevel : (Value.text (levelName e.level)).Recoverable := .text (Text.unsplit_plain _)
  have hlogger : (Value.text e.logger).Recoverable := .text h.logger
  have hmessage : (Value.text message).Recoverable := .text h.message
  cases time with
  | none => simp [ownFields, hlevel, hlogger, hmessage]
  | some t =>
    have hstamp : (Value.text t).Recoverable := .text (htime t rfl)
    simp [ownFields, hstamp, hlevel, hlogger, hmessage]

theorem Unsplit.recoverable_fields (h : e.Unsplit message) (htime : ∀ t ∈ time, t.Unsplit) :
    (Value.record (e.fields time message)).Recoverable := by
  have hfield : ∀ p ∈ e.fields time message, p.1.Unsplit ∧ p.2.Recoverable := by
    intro p hp
    rcases mem_of_mem_fields hp with hown | hextra
    · exact h.recoverable_ownFields htime p hown
    · cases h.extras with
      | record _ hnames hvalues => exact ⟨hnames p hextra, hvalues p hextra⟩
  exact .record (nodup_fields e time message) (fun p hp => (hfield p hp).1) fun p hp =>
    (hfield p hp).2

theorem Unsplit.parse_render (h : e.Unsplit message) (htime : ∀ t ∈ time, t.Unsplit) :
    Json.parse (Json.render (.record (e.fields time message))) =
      .ok (.record (e.fields time message)) :=
  Json.parse_render (h.recoverable_fields htime)

def relayed : Entry where
  level := warning
  logger := "promptfit.relay"
  message := "kept %d\n\"%s\""
  args := [.int 4, .text "é"]
  extras := [("request_id", .text "r\n😀"), ("level", .text "high"),
    ("sizes", .list [.int (-1), .null])]

/-- The level, the name of the logger, the message and all extra fields, each as it is. -/
structure Whole (e : Entry) (message : Text) (fields : Fields) : Prop where
  level : fields.get? "level" = some (.text (levelName e.level))
  logger : fields.get? "logger" = some (.text e.logger)
  message : fields.get? "message" = some (.text message)
  extras : ∀ p ∈ e.extras, fields.get? p.1 = some p.2

end Log.Entry

end ChatWindow
