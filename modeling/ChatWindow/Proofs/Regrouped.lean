import ChatWindow.Proofs.Arrangement

/-!
# Selected messages as a conversation

The messages of a selection, read as a conversation again: the system messages come first, then the
first message of the chat, at most one marker, and after that messages of the chat alone. If all
markers of the conversation stood where a marker stays, so does the marker of the selection.
-/

namespace ChatWindow

def Message.isPlainSystem (m : Message) : Bool := m.isSystem && !m.isSkipMarker

theorem Message.isSkipMarker_of_isChat {m : Message} (h : m.isChat = true) :
    m.isSkipMarker = false := by
  rcases m.standing_cases with ⟨-, -, hm⟩ | ⟨-, hk, -⟩ | ⟨-, hk, -⟩
  · simp [isChat, hm] at h
  · exact hk
  · exact hk

theorem Message.isSkipMarker_skipMarker : Message.skipMarker.isSkipMarker = true := by decide

/-- Every marker stands directly after the first message of the chat. -/
def MarkersPlaced (messages : List Message) : Prop :=
  ∀ i m, messages[i]? = some m → m.isSkipMarker = true →
    i = messages.findIdx Message.isChat + 1

def sourceMessage (messages : List Message) : Option Nat → Message
  | some i => messages.getD i Message.skipMarker
  | none => Message.skipMarker

variable {messages kept : List Message} {sources : List (Option Nat)}

theorem Arrangement.kept_eq (h : Arrangement messages sources kept) :
    kept = sources.map (sourceMessage messages) := by
  have hall := h.sourced
  clear h
  induction hall with
  | nil => rfl
  | @cons source m _ _ hm _ ih =>
    rw [List.map_cons, ← ih]
    congr 1
    cases source with
    | none => exact hm
    | some i => exact (getD_of_getElem? _ hm).symm

theorem map_sourceMessage_some (positions : List Nat) :
    (positions.map some).map (sourceMessage messages) =
      positions.map fun i => messages.getD i Message.skipMarker := by
  rw [List.map_map]
  rfl

theorem isSkipMarker_of_markerPosition? {i : Nat} (h : markerPosition? messages = some i) :
    (messages.getD i Message.skipMarker).isSkipMarker = true := by
  have hstays := List.find?_some h
  simp only [staysAfter, Bool.and_eq_true, Option.any_eq_true] at hstays
  obtain ⟨⟨m, hm, hk⟩, -⟩ := hstays
  rw [getD_of_getElem? _ hm]
  exact hk

theorem MarkerSlot.length_le_one {slot : List (Option Nat)} (h : MarkerSlot messages slot) :
    slot.length ≤ 1 := by
  rw [MarkerSlot] at h
  cases hm : markerPosition? messages with
  | some i =>
    rw [hm] at h
    simp [h]
  | none =>
    rw [hm] at h
    rcases h with rfl | rfl <;> simp

theorem MarkerSlot.isSkipMarker {slot : List (Option Nat)} (h : MarkerSlot messages slot)
    {source : Option Nat} (hsource : source ∈ slot) :
    (sourceMessage messages source).isSkipMarker = true := by
  rw [MarkerSlot] at h
  cases hm : markerPosition? messages with
  | some i =>
    rw [hm] at h
    rw [h, List.mem_singleton] at hsource
    rw [hsource]
    exact isSkipMarker_of_markerPosition? hm
  | none =>
    rw [hm] at h
    rcases h with rfl | rfl
    · cases hsource
    · rw [List.mem_singleton.mp hsource]
      exact Message.isSkipMarker_skipMarker

def frontSystem (messages : List Message) : List Message :=
  (systemPositions messages).map fun i => messages.getD i Message.skipMarker

theorem isSystem_of_mem_frontSystem {m : Message} (h : m ∈ frontSystem messages) :
    m.isSystem = true := by
  obtain ⟨i, hi, rfl⟩ := List.mem_map.mp h
  obtain ⟨m, hm, hs⟩ := mem_positions.mp (List.mem_filter.mp hi).1
  rw [getD_of_getElem? _ hm]
  exact hs

/-- A conversation apart: system messages, the first of the chat, a marker, more of the chat. -/
structure Regrouped (conversation early : List Message) (c : Message)
    (marker recent : List Message) : Prop where
  eq : conversation = early ++ c :: (marker ++ recent)
  system : ∀ m ∈ early, m.isSystem = true
  first : c.isChat = true
  markers : ∀ m ∈ marker, m.isSkipMarker = true
  single : marker.length ≤ 1
  chat : ∀ m ∈ recent, m.isChat = true

theorem Arrangement.exists_regrouped (h : Arrangement messages sources kept) {c : Message}
    {cs : List Message} (hchat : messages.filter Message.isChat = c :: cs) :
    ∃ marker recent, Regrouped kept (frontSystem messages) c marker recent ∧
      recent <:+ cs ∧ recent.getLast? = cs.getLast? := by
  have hall : ∀ m ∈ c :: cs, m.isChat = true := by
    intro m hm
    rw [← hchat] at hm
    exact (List.mem_filter.mp hm).2
  have hread := map_positions Message.isChat messages Message.skipMarker
  rw [hchat] at hread
  obtain ⟨first, others, hpositions, rfl, rfl⟩ := List.map_eq_cons_iff.mp hread
  obtain ⟨slot, suffix, hslot, hsuffix, hsources⟩ := h.grouped first others hpositions
  have hrecent : (suffix ++ others.getLast?.toList).map
      (fun i => messages.getD i Message.skipMarker) <:+
        others.map fun i => messages.getD i Message.skipMarker := by
    refine List.IsSuffix.map _ ?_
    obtain ⟨early, hearly⟩ := hsuffix
    refine ⟨early, ?_⟩
    rw [← List.append_assoc, hearly, dropLast_append_getLast?]
  refine ⟨slot.map (sourceMessage messages), _, ⟨?_, fun _ => isSystem_of_mem_frontSystem,
    hall _ List.mem_cons_self, ?_, ?_, fun m hm => hall m (List.mem_cons_of_mem _
      (hrecent.subset hm))⟩, hrecent, ?_⟩
  · rw [h.kept_eq, hsources]
    simp only [List.map_append, map_sourceMessage_some, frontSystem]
    simp
  · intro m hm
    obtain ⟨source, hsource, rfl⟩ := List.mem_map.mp hm
    exact hslot.isSkipMarker hsource
  · rw [List.length_map]
    exact hslot.length_le_one
  · rcases List.eq_nil_or_concat others with rfl | ⟨init, last, rfl⟩
    · rw [List.dropLast_nil, List.suffix_nil] at hsuffix
      simp [hsuffix]
    · simp

theorem countP_take_findIdx {m : Message}
    (h : messages[messages.findIdx Message.isChat]? = some m) :
    (messages.take (messages.findIdx Message.isChat + 1)).countP Message.isChat = 1 := by
  induction messages with
  | nil => cases h
  | cons a messages ih =>
    cases ha : a.isChat with
    | true => simp [List.findIdx_cons, ha]
    | false =>
      simp only [List.findIdx_cons, ha, cond_false, List.getElem?_cons_succ] at h
      simpa [List.findIdx_cons, ha] using ih h

theorem MarkersPlaced.markerPosition? (h : MarkersPlaced messages) {i : Nat} {m : Message}
    (hi : messages[i]? = some m) (hm : m.isSkipMarker = true) :
    markerPosition? messages = some i := by
  have hplace := h i m hi hm
  have hlt : i < messages.length := (List.getElem?_eq_some_iff.mp hi).1
  have hchat : messages[messages.findIdx Message.isChat]? =
      some messages[messages.findIdx Message.isChat] :=
    List.getElem?_eq_getElem (by omega)
  have hcount := countP_take_findIdx hchat
  rw [ChatWindow.markerPosition?, List.find?_range_eq_some]
  refine ⟨?_, List.mem_range.mpr hlt, ?_⟩
  · rw [staysAfter, hi, Option.any_some, hm, hplace, hcount]
    rfl
  · intro j hj
    rw [Bool.not_eq_true', ← Bool.not_eq_true, staysAfter, Bool.and_eq_true, Option.any_eq_true]
    rintro ⟨⟨m', hm', hk⟩, -⟩
    have hother := h j m' hm' hk
    omega

theorem MarkersPlaced.countP_le_one (h : MarkersPlaced messages) :
    messages.countP Message.isSkipMarker ≤ 1 := by
  have hall : ∀ i ∈ positions Message.isSkipMarker messages,
      i = messages.findIdx Message.isChat + 1 := by
    intro i hi
    obtain ⟨m, hm, hk⟩ := mem_positions.mp hi
    exact h i m hm hk
  have hnodup : (positions Message.isSkipMarker messages).Nodup := by
    refine (List.filter_sublist.map Prod.snd).nodup ?_
    rw [List.zipIdx_map_snd]
    exact List.nodup_range'
  have hlength : messages.countP Message.isSkipMarker =
      (positions Message.isSkipMarker messages).length := by
    rw [List.countP_eq_length_filter, ← map_positions _ _ Message.skipMarker, List.length_map]
  rw [hlength, List.eq_replicate_of_mem hall]
  rw [List.eq_replicate_of_mem hall, List.nodup_replicate] at hnodup
  simpa using hnodup

theorem MarkersPlaced.frontSystem (h : MarkersPlaced messages) :
    frontSystem messages = messages.filter Message.isPlainSystem := by
  have hpositions : systemPositions messages = positions Message.isPlainSystem messages := by
    rw [systemPositions, positions, positionsFrom, List.filter_map, List.filter_filter, positions,
      positionsFrom]
    congr 1
    apply List.filter_congr
    rintro ⟨m, i⟩ hmem
    have hi : messages[i]? = some m := List.mem_zipIdx_iff_getElem?.mp hmem
    cases hk : m.isSkipMarker with
    | true => simp [Message.isPlainSystem, hk, h.markerPosition? hi hk]
    | false =>
      have hne : ChatWindow.markerPosition? messages ≠ some i := by
        intro hmarker
        have hstays := isSkipMarker_of_markerPosition? hmarker
        rw [getD_of_getElem? _ hi, hk] at hstays
        cases hstays
      simp [Message.isPlainSystem, hk, hne]
  rw [ChatWindow.frontSystem, hpositions, map_positions]

namespace Regrouped

variable {conversation early marker recent : List Message} {c : Message}

theorem findIdx_isChat (h : Regrouped conversation early c marker recent) :
    conversation.findIdx Message.isChat = early.length := by
  have hnone : early.findIdx Message.isChat = early.length := by
    rw [List.findIdx_eq_length]
    intro m hm
    rw [Message.isChat, h.system m hm, Bool.not_true]
  rw [h.eq, List.findIdx_append, hnone, if_neg (Nat.lt_irrefl _), List.findIdx_cons, h.first]
  simp

theorem filter_isChat (h : Regrouped conversation early c marker recent) :
    conversation.filter Message.isChat = c :: recent := by
  have hsystem : ∀ ms : List Message, (∀ m ∈ ms, m.isSystem = true) →
      ms.filter Message.isChat = [] := by
    intro ms hms
    rw [List.filter_eq_nil_iff]
    intro m hm
    simp [Message.isChat, hms m hm]
  rw [h.eq, List.filter_append, List.filter_cons_of_pos h.first, List.filter_append,
    hsystem early h.system,
    hsystem marker fun m hm => Message.isSystem_of_isSkipMarker (h.markers m hm),
    List.filter_eq_self.mpr h.chat]
  rfl

theorem not_isPlainSystem (h : Regrouped conversation early c marker recent) {m : Message}
    (hm : m ∈ c :: (marker ++ recent)) : m.isPlainSystem = false := by
  have hchat : ∀ m : Message, m.isChat = true → m.isPlainSystem = false := by
    intro m hm
    simp only [Message.isChat, Bool.not_eq_true'] at hm
    simp [Message.isPlainSystem, hm]
  rcases List.mem_cons.mp hm with rfl | hm
  · exact hchat m h.first
  · rcases List.mem_append.mp hm with hm | hm
    · simp [Message.isPlainSystem, h.markers m hm]
    · exact hchat m (h.chat m hm)

theorem filter_isPlainSystem (h : Regrouped conversation early c marker recent)
    (hearly : ∀ m ∈ early, m.isPlainSystem = true) :
    conversation.filter Message.isPlainSystem = early := by
  have hnone : (c :: (marker ++ recent)).filter Message.isPlainSystem = [] := by
    rw [List.filter_eq_nil_iff]
    intro m hm
    rw [h.not_isPlainSystem hm]
    exact Bool.false_ne_true
  rw [h.eq, List.filter_append, hnone, List.append_nil, List.filter_eq_self]
  exact hearly

theorem lt_findIdx (h : Regrouped conversation early c marker recent) {i : Nat} {m : Message}
    (hi : conversation[i]? = some m) (hm : m.isPlainSystem = true) :
    i < conversation.findIdx Message.isChat := by
  rw [h.findIdx_isChat]
  by_contra hge
  rw [h.eq, List.getElem?_append_right (Nat.le_of_not_lt hge)] at hi
  have hplain := h.not_isPlainSystem (List.mem_of_getElem? hi)
  rw [hm] at hplain
  cases hplain

theorem eq_of_isSkipMarker (h : Regrouped conversation early c marker recent) {i : Nat}
    {m : Message} (hi : conversation[i]? = some m) (hm : m.isSkipMarker = true)
    (hge : conversation.findIdx Message.isChat ≤ i) :
    i = conversation.findIdx Message.isChat + 1 := by
  rw [h.findIdx_isChat] at hge ⊢
  rw [h.eq] at hi
  rcases Nat.eq_or_lt_of_le hge with rfl | hgt
  · rw [List.getElem?_append_right (Nat.le_refl _), Nat.sub_self, List.getElem?_cons_zero,
      Option.some.injEq] at hi
    rw [← hi, Message.isSkipMarker_of_isChat h.first] at hm
    cases hm
  · obtain ⟨k, rfl⟩ : ∃ k, i = early.length + (k + 1) := ⟨i - early.length - 1, by omega⟩
    rw [List.getElem?_append_right (by omega), Nat.add_sub_cancel_left,
      List.getElem?_cons_succ] at hi
    by_contra hne
    have hlength := h.single
    rw [List.getElem?_append_right (by omega)] at hi
    have hother := h.chat m (List.mem_of_getElem? hi)
    rw [Message.isSkipMarker_of_isChat hother] at hm
    cases hm

theorem markersPlaced (h : Regrouped conversation early c marker recent)
    (hearly : ∀ m ∈ early, m.isPlainSystem = true) : MarkersPlaced conversation := by
  intro i m hi hm
  refine h.eq_of_isSkipMarker hi hm ?_
  rw [h.findIdx_isChat]
  by_contra hlt
  rw [h.eq, List.getElem?_append_left (Nat.lt_of_not_le hlt)] at hi
  have hplain := hearly m (List.mem_of_getElem? hi)
  simp [Message.isPlainSystem, hm] at hplain

theorem take_findIdx (h : Regrouped conversation early c marker recent) :
    conversation.take (conversation.findIdx Message.isChat) = early := by
  rw [h.findIdx_isChat, h.eq, List.take_left]

theorem countP_drop_findIdx (h : Regrouped conversation early c marker recent) :
    (conversation.drop (conversation.findIdx Message.isChat)).countP Message.isSkipMarker ≤ 1 := by
  have hrecent : recent.countP Message.isSkipMarker = 0 := by
    rw [List.countP_eq_zero]
    intro m hm
    rw [Message.isSkipMarker_of_isChat (h.chat m hm)]
    exact Bool.false_ne_true
  have hmarker : marker.countP Message.isSkipMarker ≤ 1 :=
    Nat.le_trans List.countP_le_length h.single
  rw [h.findIdx_isChat, h.eq, List.drop_left, List.countP_cons, List.countP_append, hrecent,
    Message.isSkipMarker_of_isChat h.first]
  exact hmarker

end Regrouped

theorem Arrangement.kept_of_filter_nil (h : Arrangement messages sources kept)
    (hchat : messages.filter Message.isChat = []) : kept = messages :=
  (h.alone (chatPositions_eq_nil_iff.mpr hchat)).1

theorem Arrangement.lt_findIdx (h : Arrangement messages sources kept) {i : Nat} {m : Message}
    (hi : kept[i]? = some m) (hm : m.isPlainSystem = true) : i < kept.findIdx Message.isChat := by
  cases hchat : messages.filter Message.isChat with
  | nil =>
    rw [h.kept_of_filter_nil hchat] at hi ⊢
    rw [List.filter_eq_nil_iff] at hchat
    rw [List.findIdx_eq_length.mpr fun m hm => by simpa using hchat m hm]
    exact (List.getElem?_eq_some_iff.mp hi).1
  | cons c cs =>
    obtain ⟨marker, recent, hkept, -, -⟩ := h.exists_regrouped hchat
    exact hkept.lt_findIdx hi hm

end ChatWindow
