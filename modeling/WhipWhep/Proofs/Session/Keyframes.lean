import WhipWhep.Proofs.Avc.Framing
import WhipWhep.Proofs.Avc.ParameterSets
import WhipWhep.Proofs.Session.Wiring

/-!
Keyframes of a published H.264 stream. Each stream is framed as its extradata asks for, from the opening on,
so the writer of the stream gets no keyframe without parameter sets.
-/

namespace WhipWhep

variable {events : List Event}

namespace Publisher

variable {publisher after : Publisher} {params : StreamParams} {index : Nat}

/-- The framing of an H.264 stream is that of its decoder configuration. -/
theorem framingOf_h264_ok {own : Option Avc.Framing} (codec : params.codec = .h264)
    (full : params.extradata ≠ []) (asked : framingOf params = .ok own) :
    ∃ avc, AvcConfig.ofExtradata? params.extradata = some avc ∧ own = some (.ofConfig avc) := by
  have used : params.codec = .h264 ∧ !params.extradata.isEmpty := by simp [codec, full]
  rw [framingOf, if_pos used] at asked
  obtain ⟨avc, read, rfl⟩ := map_eq_ok_iff.1 asked
  exact ⟨avc, demand_eq_ok_iff.1 read, rfl⟩

/-- What the layer does on the transport of a track is no further packet of the caller. -/
theorem Writes.handed {packet framed : Packet} {outcome : Except Error Unit} {key : Nat}
    {relay : Relay (Except Error Unit)} (writes : publisher.Writes packet events outcome after)
    (hands : ⟨.layer (.write key framed), relay⟩ ∈ events) :
    ∃ framing, publisher.framing[packet.stream]? = some framing ∧ reframed framing packet = .ok framed := by
  cases writes with
  | absent | malformed => cases hands
  | written found opened kept whole stays told counted =>
    rcases List.mem_cons.1 hands with here | later
    · cases here
      exact ⟨_, kept, whole⟩
    · cases stays _ later

/-- However the session was used since it was opened, every keyframe of an H.264 stream comes to its writer
with a sequence parameter set, and what the writer gets of any packet is its access unit, if need be behind
the parameter sets of the stream. -/
theorem openSession_frames {config : ClientConfig} {streams : List StreamParams} {opening : List Event}
    (opened : (openSession config streams).Runs () opening (.ok publisher) ())
    (given : streams[index]? = some params) (codec : params.codec = .h264) (full : params.extradata ≠ []) :
    ∃ avc, AvcConfig.ofExtradata? params.extradata = some avc ∧
      (params.extradata.head? ≠ some 1 → avc.HasSps) ∧
      (avc.HasSps →
        ∀ {operations : List Client.Operation} {used : List Event} {result : Except Error PUnit}
            {client : Client},
          (operations.forM Client.Operation.perform).Runs (.publisher publisher) used result client →
          ∀ {packet : Packet} {written : List Event} {outcome : Except Error Unit} {last : Client},
            packet.stream = index → (Client.writePacket packet).Runs client written outcome last →
            ∀ {key : Nat} {framed : Packet} {relay : Relay (Except Error Unit)},
              ⟨.layer (.write key framed), relay⟩ ∈ written →
              ∃ unit, (Avc.Framing.ofConfig avc).accessUnit packet = .ok unit ∧
                Avc.Framing.Frames avc.parameterSets packet unit framed) := by
  obtain ⟨_, lines, wired, strung⟩ := wired_of_opened opened
  rw [← wired.params, List.getElem?_map, Option.map_eq_some_iff] at given
  obtain ⟨line, listed, rfl⟩ := given
  obtain ⟨own, asked, placed⟩ := strung.framed listed
  obtain ⟨avc, read, rfl⟩ := framingOf_h264_ok codec full asked
  refine ⟨avc, read, fun streamed => AvcConfig.hasSps_of_byteStream streamed read, ?_⟩
  intro carries operations used result client uses packet written outcome last same writes key framed relay hands
  subst same
  cases Client.lasts_of_operations uses with
  | @publisher _ later lasts _ framing =>
    obtain ⟨inner, rfl, writing⟩ := Client.runs_publisher writes
    cases writePacket_gate (strung.ready.lasts lasts framing) writing with
    | released down => cases hands
    | unconnected up other => cases List.mem_singleton.1 hands
    | passed up onward =>
      obtain ⟨kept, there, whole⟩ := onward.handed ((List.mem_cons.1 hands).resolve_left nofun)
      rw [framing, placed] at there
      cases there
      exact Avc.Framing.frames_of_apply carries.containsSps (mapError_eq_ok_iff.1 whole)

/-! A camera whose packets are length-prefixed, with a keyframe that has no parameter sets of its own. -/

namespace Camera

open AvcConfig

def stream : StreamParams := Baseline.camera.withExtradata Baseline.record

def line : Line where
  params := stream
  codec := .h264
  writer := ⟨0, 96, 7⟩
  profile := some "packetization-mode=1;profile-level-id=42e01f;level-asymmetry-allowed=1"
  handle := Client.Unanswered.video

def opening : List Event :=
  Client.Unanswered.beginning ++ (Broadcast.wiring line 0 ++ (Broadcast.creating ++ Broadcast.waiting))

def session : Publisher where
  context :=
    { Broadcast.session.context with
      registry := ⟨[Broadcast.track 0 line]⟩ }
  streams := [line.published]
  framing := [some (.ofConfig Baseline.config)]

def start : Publisher where
  context := { Broadcast.start.context with registry := .allocate 1 }
  streams := [stream]
  framing := [none]

def offered : Publisher := { session with context := { session.context with timeToConnect := none } }

theorem adds : ([stream].zipIdx.forM fun (params, index) => addStream params index).Runs start
    (Broadcast.wiring line 0) (.ok ()) offered :=
  .call _ _ _ (.call _ _ _ (.done _))

theorem creates : (onContext Context.createResource).Runs offered Broadcast.creating (.ok ()) offered :=
  .call _ _ _ (.call _ _ _ (.call _ _ _ (.call _ _ _ (.call _ _ _ (.done _)))))

theorem connects : (onContext Context.waitConnected).Runs offered Broadcast.waiting (.ok ()) session := by
  refine Act.runs_within.2 ⟨session.context, rfl, ?_⟩
  refine Act.runs_get_bind.2 (Act.runs_bind.2 (.inr ⟨_, (), _, _, rfl, Broadcast.waits (by decide), ?_⟩))
  exact .call _ _ _ (.done _)

theorem sets : setup.Runs start (Broadcast.wiring line 0 ++ (Broadcast.creating ++ Broadcast.waiting)) (.ok ())
    session :=
  Act.runs_get_bind.2 (Act.runs_bind.2 (.inr ⟨_, (), offered, _, rfl, adds,
    Act.runs_bind.2 (.inr ⟨_, (), offered, _, rfl, creates, connects⟩)⟩))

theorem runs : (openSession Client.Unanswered.setting [stream]).Runs () opening (.ok session) () := by
  refine Act.runs_bind.2 (.inr ⟨[], (), (), _, rfl, Act.runs_settle.2 ⟨rfl, rfl, rfl⟩, ?_⟩)
  refine Act.runs_bind.2 (.inr ⟨Client.Unanswered.beginning, _, (), _, rfl,
    (Context.Begins.begun Client.Unanswered.validate_setting 0 Client.Unanswered.outset).runs, ?_⟩)
  exact Script.yields_bind_iff.2 ⟨_, _, [], (List.append_nil _).symm, sets, .done _⟩

def keyframe : Packet :=
  (Packet.make 0 3000 [0, 0, 0, 3, 0x06, 0x05, 0, 0, 0, 0, 3, 0x65, 0x88, 0]).keyframe

def framed : Packet :=
  { keyframe with
    payload := [0, 0, 0, 1, 0x67, 0x42, 0xE0, 0x1F, 0, 0, 0, 1, 0x68, 0xCE,
      0, 0, 0, 1, 0x06, 0x05, 0, 0, 0, 0, 1, 0x65, 0x88, 0] }

theorem applies : (Avc.Framing.ofConfig Baseline.config).apply keyframe = .ok framed := by
  calc (Avc.Framing.ofConfig Baseline.config).apply keyframe
    _ = Avc.Framing.apply ⟨Baseline.config.parameterSets, some 4⟩
          { keyframe with payload := Avc.prefixed (4 : UInt8).toNat Baseline.units } := rfl
    _ = Avc.Framing.apply ⟨Baseline.config.parameterSets, none⟩
          { keyframe with payload := Avc.write Baseline.units } :=
      Avc.Framing.apply_prefixed (by decide) (by decide) Baseline.units_fit
    _ = .ok framed := rfl

/-- The layer keeps the keyframe to itself. -/
def passing : List Event := [seenOpen, ⟨.layer (.write 0 framed), .done (.ok ())⟩]

def passed : Publisher :=
  { session with
    context := session.context.setTrack 0
      { Broadcast.track 0 line with counters := Counters.zero.frame true } }

theorem writes : (writePacket keyframe).Runs session passing (.ok ()) passed := by
  have looks : (onContext Context.ensureConnected).Runs session [seenOpen] (.ok ()) session :=
    .call _ _ _ (.done _)
  refine Act.runs_bind.2 (.inr ⟨_, (), _, _, rfl, looks, ?_⟩)
  show Act.Runs (onContext (Context.onTrack 0 (Track.write
    (((Avc.Framing.ofConfig Baseline.config).apply keyframe).mapError Error.media)))) _ _ _ _
  rw [applies]
  exact .call _ _ _ (.done _)

theorem passes : (Client.writePacket keyframe).Runs (.publisher session) passing (.ok ()) (.publisher passed) :=
  Script.yields_bind_iff.2 ⟨_, _, [], (List.append_nil _).symm, writes, .done _⟩

end Camera

theorem openSession_frames_camera : ∃ unit,
    (Avc.Framing.ofConfig AvcConfig.Baseline.config).accessUnit Camera.keyframe = .ok unit ∧
      Avc.Framing.Frames AvcConfig.Baseline.config.parameterSets Camera.keyframe unit Camera.framed := by
  have given : [Camera.stream][0]? = some Camera.stream := rfl
  have full : Camera.stream.extradata ≠ [] := by decide
  obtain ⟨avc, read, -, frames⟩ := openSession_frames Camera.runs given rfl full
  have recorded : AvcConfig.ofExtradata? AvcConfig.Baseline.record = some AvcConfig.Baseline.config := by decide
  cases recorded.symm.trans read
  have listed : AvcConfig.Baseline.config.HasSps := ⟨_, List.mem_cons_self, by decide⟩
  have looks : ([Client.Operation.state].forM Client.Operation.perform).Runs (.publisher Camera.session)
      [seenOpen] (.ok ()) (.publisher Camera.session) := .call _ _ _ (.done _)
  exact frames listed looks rfl Camera.passes (List.mem_cons_of_mem _ List.mem_cons_self)

end Publisher
end WhipWhep
