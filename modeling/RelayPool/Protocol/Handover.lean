import RelayPool.Fallible
import RelayPool.Framing
import RelayPool.Protocol.Bootstrap

/-! What a committed bootstrap hands on.

Until it commits the machine has all the bytes it has seen: the events it holds
back and what its decoder has pending (`Holding`). On the chunk that commits it
gives out its events but neither what is pending nor the events it left out
after a completed stream, so the client gets the upstream's bytes exactly if
there is nothing of either (`stream_handed_on`). -/
namespace RelayPool.Protocol
open Fallible Framing

/-- What a complete event is classified as. -/
def kindOf (profile : Profile) (raw : Bytes) : Except ProtocolFailure ProtocolEventKind :=
  decodeSseEvent raw >>= profile.classifyEvent

/-- The event commits a stream. -/
def commits (profile : Profile) (raw : Bytes) : Bool :=
  kindOf profile raw matches .ok .semantic | .ok (.terminal .completed)

/-- The event completes a stream. -/
def completes (profile : Profile) (raw : Bytes) : Bool :=
  kindOf profile raw matches .ok (.terminal .completed)

/-- The upstream's bytes up to the end of the chunk in which an event first commits. -/
def readUntil (profile : Profile) (seen : Bytes) : List Poll → Bytes
  | [] => seen
  | poll :: rest =>
    if (frames endsEvent [] (seen ++ poll.bytes)).1.any (commits profile) then seen ++ poll.bytes
    else readUntil profile (seen ++ poll.bytes) rest

/-- The bytes end with an event, and no event but the last one completes the stream. -/
def Whole (profile : Profile) (read : Bytes) : Prop :=
  (frames endsEvent [] read).2 = [] ∧
    ∀ raw ∈ (frames endsEvent [] read).1.dropLast, completes profile raw = false

instance (profile : Profile) (read : Bytes) : Decidable (Whole profile read) :=
  inferInstanceAs (Decidable (_ ∧ _))

/-! ### The decoder frames the bytes -/

theorem decodeSseEvent_raw {raw : Bytes} {event : DecodedSseEvent}
    (h : decodeSseEvent raw = .ok event) : event.raw = raw := by
  unfold decodeSseEvent at h
  split at h
  · cases h
  · cases h
    rfl

/-- The decoder finds the frames, each of which can be decoded. -/
theorem pushBytes_ok {pending bytes left : Bytes} {found decoded : List DecodedSseEvent}
    (h : pushBytes pending found bytes = .ok (decoded, left)) :
    ∃ new, decoded = found ++ new ∧ frames endsEvent pending bytes = (new.map (·.raw), left) ∧
      ∀ event ∈ new, decodeSseEvent event.raw = .ok event := by
  induction bytes generalizing pending found with
  | nil =>
    cases h
    exact ⟨[], by simp, rfl, nofun⟩
  | cons byte rest ih =>
    rw [pushBytes] at h
    dsimp only at h
    by_cases hends : endsEvent (pending ++ [byte])
    · rw [if_pos hends, frames_complete hends] at *
      simp only [bind_ok, ite_ok, throw_ok, false_and, exists_false, and_false, false_or] at h
      obtain ⟨-, event, hevent, -, h⟩ := h
      obtain ⟨new, rfl, hframes, hnew⟩ := ih h
      have hraw := decodeSseEvent_raw hevent
      refine ⟨event :: new, by simp, ?_, List.forall_mem_cons.mpr ⟨hraw ▸ hevent, hnew⟩⟩
      rw [hframes, List.map_cons, hraw]
    · rw [if_neg hends, frames_pending hends] at *
      simp only [bind_ok, ite_ok, throw_ok, false_and, exists_false, and_false, false_or] at h
      exact ih h.2

theorem push_ok {pending bytes left : Bytes} {decoded : List DecodedSseEvent}
    (h : push pending bytes = .ok (decoded, left)) :
    frames endsEvent pending bytes = (decoded.map (·.raw), left) ∧
      ∀ event ∈ decoded, decodeSseEvent event.raw = .ok event := by
  obtain ⟨-, h⟩ := (ite_ok.mp h).resolve_left nofun
  obtain ⟨new, rfl, hframes⟩ := pushBytes_ok h
  exact hframes

/-! ### The machine classifies the frames -/

/-- The events the machine makes of complete ones: up to a terminal, which may only be
followed if the stream is completed. -/
inductive Classified (profile : Profile) : List Bytes → List ProtocolEvent → Prop
  | none : Classified profile [] []
  | event {raw kind rest events} : kindOf profile raw = .ok kind → kind.terminal? = .none →
      Classified profile rest events → Classified profile (raw :: rest) (⟨raw, kind⟩ :: events)
  | terminal {raw terminal rest} : kindOf profile raw = .ok (.terminal terminal) →
      terminal = .completed ∨ rest = [] →
      Classified profile (raw :: rest) [⟨raw, .terminal terminal⟩]

/-- After a terminal nothing is added, and only a completed stream goes on. -/
theorem classifyEvents_after {profile : Profile} {seen : ProtocolTerminal}
    {decoded : List DecodedSseEvent} {events : List ProtocolEvent} {terminal : Option ProtocolTerminal}
    (h : classifyEvents profile (some seen) decoded = .ok (events, terminal)) :
    events = [] ∧ (seen = .completed ∨ decoded = []) := by
  induction decoded with
  | nil =>
    cases h
    exact ⟨rfl, .inr rfl⟩
  | cons event rest ih =>
    simp only [classifyEvents, bind_ok, ite_ok, throw_ok, false_and, exists_false, and_false,
      false_or] at h
    obtain ⟨kind, -, hallowed, h⟩ := h
    refine ⟨(ih h).1, .inl ?_⟩
    simp only [allowEventAfterTerminal] at hallowed
    simp at hallowed
    exact hallowed.1

theorem classifyEvents_ok {profile : Profile} {decoded : List DecodedSseEvent}
    {events : List ProtocolEvent} {terminal : Option ProtocolTerminal}
    (hdecoded : ∀ event ∈ decoded, decodeSseEvent event.raw = .ok event)
    (h : classifyEvents profile none decoded = .ok (events, terminal)) :
    Classified profile (decoded.map (·.raw)) events ∧
      ((∀ event ∈ events, event.kind.terminal? = none) → terminal = none) := by
  induction decoded generalizing events terminal with
  | nil =>
    cases h
    exact ⟨.none, fun _ => rfl⟩
  | cons event rest ih =>
    obtain ⟨hevent, hrest⟩ := List.forall_mem_cons.mp hdecoded
    simp only [classifyEvents, bind_ok, pure_ok, Prod.exists] at h
    obtain ⟨kind, hkind, events', terminal', hclassify, heq⟩ := h
    cases heq
    have hkindOf : kindOf profile event.raw = .ok kind := bind_ok.mpr ⟨event, hevent, hkind⟩
    cases hterminal : kind.terminal? with
    | none =>
      rw [hterminal] at hclassify
      obtain ⟨hclassified, hnone⟩ := ih hrest hclassify
      exact ⟨.event hkindOf hterminal hclassified,
        fun hall => hnone fun event' hin => hall event' (List.mem_cons_of_mem _ hin)⟩
    | some seen =>
      rw [hterminal] at hclassify
      obtain ⟨rfl, hends⟩ := classifyEvents_after hclassify
      refine ⟨?_, fun hall => ?_⟩
      · obtain rfl : kind = .terminal seen := by
          cases kind <;> simp_all [ProtocolEventKind.terminal?]
        exact .terminal hkindOf (hends.imp_right fun hnil => by rw [hnil]; rfl)
      · have := hall _ (List.mem_cons_self ..)
        rw [hterminal] at this
        cases this

section Frames
variable {profile : Profile} {raws : List Bytes} {events : List ProtocolEvent}

/-- What is left out comes last. -/
theorem Classified.split (h : Classified profile raws events) :
    ∃ dropped, raws = events.map (·.raw) ++ dropped := by
  induction h with
  | none => exact ⟨[], rfl⟩
  | event _ _ _ ih =>
    obtain ⟨dropped, hsplit⟩ := ih
    exact ⟨dropped, by rw [hsplit]; rfl⟩
  | terminal => exact ⟨_, rfl⟩

/-- Something is left out exactly if an event before the last one completes the stream. -/
theorem Classified.whole (h : Classified profile raws events) :
    (∀ raw ∈ raws.dropLast, completes profile raw = false) ↔ raws = events.map (·.raw) := by
  induction h with
  | none => simp
  | @event raw kind rest events hkind hterminal hclassified ih =>
    have hnot : completes profile raw = false := by
      unfold completes
      rw [hkind]
      cases kind <;> first | rfl | cases hterminal
    rw [List.map_cons, List.cons_inj_right, ← ih]
    cases rest with
    | nil => simp
    | cons next rest => simp [hnot]
  | @terminal raw terminal rest hkind hends =>
    cases rest with
    | nil => simp
    | cons next rest =>
      obtain rfl := hends.resolve_right (by simp)
      have hcompletes : completes profile raw = true := by
        unfold completes
        rw [hkind]
      simp [hcompletes]

/-- The kinds a bootstrap holds back. -/
def Held (kind : ProtocolEventKind) : Prop := kind = .heartbeat ∨ kind = .control

theorem Held.terminal {kind : ProtocolEventKind} (h : Held kind) : kind.terminal? = none := by
  rcases h with rfl | rfl <;> rfl

/-- If all events are held back, all complete ones are among them and none commits. -/
theorem Classified.held (h : Classified profile raws events)
    (hheld : ∀ event ∈ events, Held event.kind) :
    raws = events.map (·.raw) ∧ ∀ raw ∈ raws, commits profile raw = false := by
  induction h with
  | none => exact ⟨rfl, nofun⟩
  | @event raw kind rest events hkind hterminal hclassified ih =>
    obtain ⟨hfirst, hrest⟩ := List.forall_mem_cons.mp hheld
    obtain ⟨hraws, hcommits⟩ := ih hrest
    refine ⟨by rw [hraws]; rfl, List.forall_mem_cons.mpr ⟨?_, hcommits⟩⟩
    unfold commits
    rw [hkind]
    rcases hfirst with rfl | rfl <;> rfl
  | terminal => simp [Held] at hheld

/-- An event that is not held back commits, or fails the stream. -/
theorem Classified.commits (h : Classified profile raws events) {event : ProtocolEvent}
    (hin : event ∈ events) (hkind : event.kind = .semantic ∨ event.kind = .terminal .completed) :
    ∃ raw ∈ raws, RelayPool.Protocol.commits profile raw := by
  have hkindOf : event.raw ∈ raws ∧ kindOf profile event.raw = .ok event.kind := by
    induction h with
    | none => cases hin
    | event hkind' _ _ ih =>
      rcases List.mem_cons.mp hin with rfl | hin
      · exact ⟨List.mem_cons_self .., hkind'⟩
      · exact (ih hin).imp_left (List.mem_cons_of_mem _)
    | terminal hkind' =>
      obtain rfl := List.mem_singleton.mp hin
      exact ⟨List.mem_cons_self .., hkind'⟩
  refine ⟨event.raw, hkindOf.1, ?_⟩
  unfold RelayPool.Protocol.commits
  rw [hkindOf.2]
  rcases hkind with hkind | hkind <;> rw [hkind]

end Frames

/-! ### The machine holds the bytes, or emits its events -/

/-- Once it has committed the machine emits every event. -/
theorem observe_committed {events : List ProtocolEvent} {e : Emission}
    {out : Emission ⊕ (ProtocolTerminal × Bytes)} (hcommitted : e.committed = true)
    (hsome : e.emitted ≠ []) (h : e.observe events = .ok out) :
    ∃ e', out = .inl e' ∧ e'.emitted ≠ [] ∧
      e'.emitted.flatten = e.emitted.flatten ++ (events.map (·.raw)).flatten := by
  induction events generalizing e with
  | nil =>
    cases h
    exact ⟨e, rfl, hsome, by simp⟩
  | cons event rest ih =>
    have hnext : ∀ {e₁ : Emission}, e₁.committed = true → e₁.emitted = e.emitted ++ [event.raw] →
        e₁.observe rest = .ok out → ∃ e', out = .inl e' ∧ e'.emitted ≠ [] ∧
          e'.emitted.flatten = e.emitted.flatten ++ ((event :: rest).map (·.raw)).flatten := by
      intro e₁ hcommitted₁ hemitted h
      obtain ⟨e', hout, hsome', hflatten⟩ := ih hcommitted₁ (by simp [hemitted]) h
      exact ⟨e', hout, hsome', by rw [hflatten, hemitted]; simp⟩
    unfold Emission.observe at h
    rw [hcommitted] at h
    obtain ⟨raw, kind⟩ := event
    rcases kind with _ | _ | _ | (_ | _ | _) <;> exact hnext (by exact hcommitted) rfl h

/-- What the machine that holds bytes back has made of the events of a chunk. -/
inductive Observed (buffered : Bytes) (events : List ProtocolEvent) : Emission → Prop
  | held : (∀ event ∈ events, Held event.kind) →
      Observed buffered events ⟨buffered ++ (events.map (·.raw)).flatten, false, [], none⟩
  | committed {e event} : event ∈ events →
      event.kind = .semantic ∨ event.kind = .terminal .completed → e.emitted ≠ [] →
      e.emitted.flatten = buffered ++ (events.map (·.raw)).flatten → Observed buffered events e

theorem Observed.back {buffered raw : Bytes} {kind : ProtocolEventKind} {rest : List ProtocolEvent}
    {e : Emission} (hkind : Held kind) (h : Observed (buffered ++ raw) rest e) :
    Observed buffered (⟨raw, kind⟩ :: rest) e := by
  cases h with
  | held hall =>
    have hevents : ∀ event ∈ ⟨raw, kind⟩ :: rest, Held event.kind :=
      List.forall_mem_cons.mpr ⟨hkind, hall⟩
    simpa using @Observed.held buffered _ hevents
  | committed hin hkind' hsome hflatten =>
    exact .committed (List.mem_cons_of_mem _ hin) hkind' hsome (by rw [hflatten]; simp)

/-- The event that commits, with all that was held back, and the events after it. -/
theorem Observed.of_commit {buffered raw : Bytes} {kind : ProtocolEventKind}
    {rest : List ProtocolEvent} {e₁ e : Emission} (h : e₁.observe rest = .ok (.inl e))
    (hkind : kind = .semantic ∨ kind = .terminal .completed) (hcommitted : e₁.committed = true)
    (hemitted : e₁.emitted ≠ [] ∧ e₁.emitted.flatten = buffered ++ raw) : Observed buffered (⟨raw, kind⟩ :: rest) e := by
  obtain ⟨e', heq, hsome, hflatten⟩ := observe_committed hcommitted hemitted.1 h
  cases heq
  refine .committed (List.mem_cons_self ..) hkind hsome ?_
  rw [hflatten, hemitted.2]
  simp

theorem commit_emitted (buffered raw : Bytes) :
    (Emission.commit ⟨buffered, false, [], none⟩ raw).emitted ≠ [] ∧
      (Emission.commit ⟨buffered, false, [], none⟩ raw).emitted.flatten = buffered ++ raw := by
  cases buffered <;> simp [Emission.commit]

theorem observe_holding {events : List ProtocolEvent} {buffered : Bytes} {e : Emission}
    (h : Emission.observe ⟨buffered, false, [], none⟩ events = .ok (.inl e)) :
    Observed buffered events e := by
  induction events generalizing buffered with
  | nil =>
    cases h
    simpa using @Observed.held buffered [] nofun
  | cons event rest ih =>
    obtain ⟨raw, kind⟩ := event
    unfold Emission.observe at h
    rcases kind with _ | _ | _ | (_ | _ | _)
    · obtain ⟨-, h⟩ := (ite_ok.mp h).resolve_left nofun
      exact .back (.inl rfl) (ih h)
    · obtain ⟨-, h⟩ := (ite_ok.mp h).resolve_left nofun
      exact .back (.inr rfl) (ih h)
    · exact .of_commit h (.inl rfl) rfl (commit_emitted ..)
    · exact .of_commit h (.inr rfl) rfl (commit_emitted ..)
    · cases h
    · cases h

/-- All bytes seen are held, as events held back or as what the decoder has pending. -/
structure Holding (profile : Profile) (seen : Bytes) (m : SseBootstrapMachine) : Prop where
  protocol : m.protocol = ⟨(frames endsEvent [] seen).2, none⟩
  buffered : m.buffered = (frames endsEvent [] seen).1.flatten
  committed : m.committed = false
  terminal : m.terminal = none
  held : ∀ raw ∈ (frames endsEvent [] seen).1, commits profile raw = false

theorem new_holding (profile : Profile) : Holding profile [] .new :=
  ⟨rfl, rfl, rfl, rfl, nofun⟩

section Chunks
variable {profile : Profile} {seen bytes : Bytes} {m m' : SseBootstrapMachine} {scratch : Bool}

theorem observeChunk_classifies {m m' : SseMachine} {events : List ProtocolEvent}
    (hterminal : m.terminal = none)
    (h : m.observeChunk profile scratch bytes = .ok (events, m')) :
    Classified profile (frames endsEvent m.pending bytes).1 events ∧
      m'.pending = (frames endsEvent m.pending bytes).2 ∧
      ((∀ event ∈ events, event.kind.terminal? = none) → m'.terminal = none) := by
  simp only [SseMachine.observeChunk, hterminal, bind_ok, ite_ok, throw_ok, pure_ok, false_and,
    exists_false, and_false, false_or, Prod.exists] at h
  obtain ⟨-, decoded, left, hpush, events', terminal, hclassify, heq⟩ := h
  cases heq
  obtain ⟨hframes, hdecoded⟩ := push_ok hpush
  obtain ⟨hclassified, hnone⟩ := classifyEvents_ok hdecoded hclassify
  rw [hframes]
  exact ⟨hclassified, rfl, hnone⟩

/-- What the machine that holds bytes back answers to a chunk. -/
inductive Answers (profile : Profile) (bytes : Bytes) (m : SseBootstrapMachine)
    (d : BootstrapDisposition) (m' : SseBootstrapMachine) : Prop
  | ended {terminal event} : d = .precommitTerminal terminal event → Answers profile bytes m d m'
  | observed {events e terminal} :
      Classified profile (frames endsEvent m.protocol.pending bytes).1 events →
      ((∀ event ∈ events, event.kind.terminal? = none) → terminal = none) →
      Observed m.buffered events e →
      m' = ⟨⟨(frames endsEvent m.protocol.pending bytes).2, terminal⟩, e.buffered, e.committed,
        e.terminal⟩ →
      d = (if e.emitted.isEmpty then .pending else .emit e.emitted e.terminal) →
      Answers profile bytes m d m'

theorem observeChunk_answers (h : Holding profile seen m) {d : BootstrapDisposition}
    (hok : m.observeChunk profile scratch bytes = .ok (d, m')) : Answers profile bytes m d m' := by
  simp only [SseBootstrapMachine.observeChunk, h.committed, bind_ok, ite_ok, throw_ok, false_and,
    exists_false, and_false, false_or, Prod.exists] at hok
  obtain ⟨-, events, ⟨pending, terminal⟩, hobserve, out, hout, hok⟩ := hok
  obtain ⟨hclassified, hpending, hnone⟩ := observeChunk_classifies (by rw [h.protocol]) hobserve
  split at hok
  · cases hok
    exact .ended rfl
  · rename_i e
    simp only [bind_ok, ite_ok, throw_ok, false_and, exists_false, and_false, false_or] at hok
    obtain rfl : pending = _ := hpending
    obtain ⟨-, ⟨hempty, heq⟩ | ⟨hsome, heq⟩⟩ := hok
    · cases heq
      exact .observed hclassified hnone (observe_holding hout) rfl (if_pos hempty).symm
    · cases heq
      exact .observed hclassified hnone (observe_holding hout) rfl (if_neg hsome).symm

/-- An undecided machine holds the bytes of the chunk as well. -/
theorem Holding.pending (h : Holding profile seen m)
    (hok : m.observeChunk profile scratch bytes = .ok (.pending, m')) :
    Holding profile (seen ++ bytes) m' := by
  cases observeChunk_answers h hok with
  | ended hd => cases hd
  | observed hclassified hnone hobserved hm' hd =>
    have hframes := @frames_append _ endsEvent [] seen bytes
    rw [h.protocol] at hclassified hm'
    cases hobserved with
    | held hall =>
      obtain ⟨hraws, hcommits⟩ := hclassified.held hall
      subst hm'
      constructor
      · rw [hframes, hnone fun event hin => (hall event hin).terminal]
      · rw [hframes, h.buffered, ← hraws]
        simp
      · rfl
      · rfl
      · rw [hframes]
        exact List.forall_mem_append.mpr ⟨h.held, hcommits⟩
    | committed _ _ hsome => simp [hsome] at hd

theorem completes_commits {raw : Bytes} (h : commits profile raw = false) :
    completes profile raw = false := by
  unfold commits at h
  unfold completes
  generalize kindOf profile raw = kind at h ⊢
  rcases kind with _ | (_ | _ | _ | (_ | _ | _)) <;> first | rfl | cases h

/-- The frames of a chunk after which none is left out make up its bytes. -/
theorem emitted_whole {held kept dropped : List Bytes} {left read : Bytes}
    (hread : (held ++ (kept ++ dropped)).flatten ++ left = read)
    (hnonempty : ∀ frame ∈ kept ++ dropped, frame ≠ []) :
    held.flatten ++ kept.flatten = read ↔ left = [] ∧ kept ++ dropped = kept := by
  rw [← hread]
  simp only [List.flatten_append, List.append_assoc, List.append_cancel_left_eq,
    List.append_right_eq_self, List.self_eq_append_right, List.append_eq_nil_iff]
  rw [and_comm, and_congr_right_iff]
  intro _
  refine ⟨fun hflat => List.eq_nil_iff_forall_not_mem.mpr fun frame hin => ?_, fun h => by simp [h]⟩
  exact hnonempty frame (List.mem_append_right _ hin) (List.flatten_eq_nil_iff.mp hflat frame hin)

/-- A machine that commits emits the events it holds and the ones it has classified. -/
theorem Holding.emit (h : Holding profile seen m) {events : List Bytes}
    {terminal : Option ProtocolTerminal}
    (hok : m.observeChunk profile scratch bytes = .ok (.emit events terminal, m')) :
    (frames endsEvent [] (seen ++ bytes)).1.any (commits profile) ∧
      (events.flatten = seen ++ bytes ↔ Whole profile (seen ++ bytes)) := by
  cases observeChunk_answers h hok with
  | ended hd => cases hd
  | @observed classified e terminal' hclassified hnone hobserved hm' hd =>
    cases hobserved with
    | held => simp at hd
    | @committed _ event hin hkind hsome hflatten =>
      obtain ⟨rfl, -⟩ : events = e.emitted ∧ terminal = e.terminal := by simpa [hsome] using hd
      rw [h.protocol] at hclassified
      obtain ⟨raw, hraw, hcommits⟩ := hclassified.commits hin hkind
      obtain ⟨dropped, hsplit⟩ := hclassified.split
      have hread := @frames_flatten _ endsEvent [] (seen ++ bytes)
      have hnonempty := @frames_ne_nil _ endsEvent (frames endsEvent [] seen).2 bytes
      have hnew : (frames endsEvent (frames endsEvent [] seen).2 bytes).1 ≠ [] :=
        List.ne_nil_of_mem hraw
      have hheld : ∀ raw ∈ (frames endsEvent [] seen).1, completes profile raw = false :=
        fun raw hin => completes_commits (h.held raw hin)
      rw [frames_append] at hread
      unfold Whole
      rw [frames_append]
      refine ⟨List.any_eq_true.mpr ⟨raw, List.mem_append_right _ hraw, hcommits⟩, ?_⟩
      rw [List.dropLast_append_of_ne_nil hnew, List.forall_mem_append, and_iff_right hheld,
        hclassified.whole, hflatten, h.buffered]
      rw [hsplit] at hread hnonempty ⊢
      exact emitted_whole hread hnonempty

end Chunks

/-! ### The stream -/

/-- A stream that has not committed does not when it ends. -/
theorem finishEof_holding {profile : Profile} {seen : Bytes} {m : SseBootstrapMachine}
    (h : Holding profile seen m) (events : List Bytes) (terminal : Option ProtocolTerminal) :
    m.finishEof profile ≠ .ok (.emit events terminal) := by
  intro hok
  simp only [SseBootstrapMachine.finishEof, SseMachine.finishEof, h.protocol, h.committed] at hok
  obtain ⟨terminal', hfinish, hok⟩ := bind_ok.mp hok
  obtain ⟨-, heq⟩ := (ite_ok.mp hfinish).resolve_right nofun
  cases heq
  cases hok

/-- The client gets the upstream's bytes exactly if they are whole where it commits. -/
theorem bootstrapLoop_handed_on {profile : Profile} {seen : Bytes} {m : SseBootstrapMachine}
    {polls : List Poll} {chunks : Chunks} (h : Holding profile seen m)
    (hok : bootstrapLoop profile m polls = .ok chunks) :
    chunks.bytes = seen ++ (polls.map (·.bytes)).flatten ↔
      Whole profile (readUntil profile seen polls) := by
  induction polls generalizing seen m with
  | nil =>
    unfold bootstrapLoop at hok
    split at hok
    · cases hok
    · exact absurd ‹_› (finishEof_holding h _ _)
    · cases hok
    · cases hok
  | cons poll rest ih =>
    have hnone : ∀ {read m'}, Holding profile read m' →
        (frames endsEvent [] read).1.any (commits profile) = false :=
      fun hholding => by simpa using hholding.held
    cases poll with
    | failed => cases hok
    | timedOut => cases hok
    | chunk bytes scratch =>
      rw [readUntil, List.map_cons, List.flatten_cons, ← List.append_assoc]
      unfold bootstrapLoop at hok
      split at hok
      · rename_i hempty
        obtain rfl : bytes = [] := List.isEmpty_iff.mp hempty
        rw [Poll.bytes, List.append_nil, hnone h, if_neg (by simp)]
        exact ih h hok
      split at hok
      · cases hok
      · rename_i hpending
        have hholding := h.pending hpending
        rw [Poll.bytes, hnone hholding, if_neg (by simp)]
        exact ih hholding hok
      · cases hok
      · rename_i hemit
        cases hok
        obtain ⟨hcommits, hwhole⟩ := h.emit hemit
        rw [Poll.bytes, if_pos hcommits, ← hwhole]
        exact List.append_left_inj _

/-- A committed stream is the upstream's, byte for byte, exactly if the chunk that commits
ends with an event and has none after one that completes the stream. -/
theorem stream_handed_on (fromStr : JsonParser) (policy : CompletionPolicy) (retained : Bool)
    (polls : List Poll) (chunks : Chunks)
    (h : bootstrapStream fromStr policy retained polls = .ok chunks) :
    chunks.bytes = (polls.map (·.bytes)).flatten ↔
      ∀ profile, policy.profile fromStr = some profile →
        Whole profile (readUntil profile [] polls) := by
  unfold bootstrapStream at h
  split at h
  · rename_i hnone
    cases h
    exact iff_of_true rfl fun profile hsome => by rw [hnone] at hsome; cases hsome
  · rename_i profile hsome
    obtain ⟨-, hok⟩ := (ite_ok.mp h).resolve_left nofun
    rw [← List.nil_append (List.flatten _), bootstrapLoop_handed_on (new_holding profile) hok, hsome]
    simp

/-- A parser that knows the empty object. -/
def emptyObject : JsonParser := fun text =>
  if text = "{}" then .ok (.object []) else .error "expected value"

/-- The polls of a stream that is cut into these chunks. -/
def pollsOf (chunks : List String) : List Poll :=
  chunks.map fun chunk => .chunk chunk.toUTF8.data.toList true

/-- Cut between events, the stream arrives. -/
theorem stream_handed_on_events :
    ∃ chunks, bootstrapStream emptyObject .chatDoneSentinel true
        (pollsOf [": open\n\n", "data: {}\n\n", "data: [DONE]\n\n"]) = .ok chunks ∧
      chunks.bytes = ((pollsOf [": open\n\n", "data: {}\n\n", "data: [DONE]\n\n"]).map
        (·.bytes)).flatten := by
  refine ⟨_, rfl, (stream_handed_on emptyObject .chatDoneSentinel true _ _ rfl).mpr ?_⟩
  intro profile known
  obtain rfl := Option.some.inj known
  decide +kernel

/-- Cut within the second event, the stream loses the beginning of it. -/
theorem partial_event_lost :
    ¬ ∀ (fromStr : JsonParser) (policy : CompletionPolicy) (polls : List Poll) (chunks : Chunks),
      bootstrapStream fromStr policy true polls = .ok chunks →
      chunks.bytes = (polls.map (·.bytes)).flatten := by
  intro h
  have := h emptyObject .chatDoneSentinel (pollsOf ["data: {}\n\ndata: \x7b", "\x7d\n\n"]) _ rfl
  revert this
  decide +kernel

end RelayPool.Protocol
