import WhipWhep.Proofs.Session.Opening
import WhipWhep.Proofs.Session.Polling
import WhipWhep.Proofs.Session.Wiring

/-!
Where configuration errors come from while a publisher is set up. The session has checked the configuration and the
streams before, and none of its own steps complains about them again. Such an error is one that the layer has handed
back from the opening of a writer.
-/

namespace WhipWhep

variable {σ τ α β : Type} {events : List Event} {cause : ConfigError}

/-- The layer has answered the opening of a writer with a configuration error. -/
inductive Handed (cause : ConfigError) : List Event → Prop where
  | handed {params : StreamParams} {index : Nat} {transport : TransportInfo} {relay : Relay (Except Error Writer)}
      {target : Option Handle} {counters left : Counters} {played : List Event} (before after : List Event)
      (plays : (relay.play target).Runs counters played (.ok (.error (.config cause))) left) :
      Handed cause (before ++ ⟨.layer (.openWriter params index transport), relay⟩ :: (played ++ after))

namespace Handed

theorem before (handed : Handed cause events) (earlier : List Event) : Handed cause (earlier ++ events) := by
  cases handed with
  | handed before after plays =>
    rw [← List.append_assoc]
    exact .handed _ _ plays

theorem after (handed : Handed cause events) (later : List Event) : Handed cause (events ++ later) := by
  cases handed with
  | handed before after plays =>
    rw [List.append_assoc, List.cons_append, List.append_assoc]
    exact .handed _ _ plays

end Handed

namespace Act

/-- A run of an act fails with a configuration error only if the layer has handed it back. -/
def Blames (act : Act σ α) (state : σ) : Prop :=
  ∀ events cause after, act.Runs state events (.error (.config cause)) after → Handed cause events

variable {state : σ}

theorem blames_settle {settled : Except Error α} (other : ∀ cause, settled ≠ .error (.config cause)) :
    (settle settled).Blames state := by
  intro events cause after run
  obtain ⟨-, same, -⟩ := runs_settle.1 run
  exact absurd same.symm (other cause)

theorem blames_pure {result : α} : (pure result : Act σ α).Blames state := by
  intro events cause after run
  obtain ⟨-, wrong, -⟩ := runs_pure.1 run
  cases wrong

theorem blames_fail {cause : Error} (other : ∀ given, cause ≠ .config given) :
    (fail cause : Act σ α).Blames state := by
  intro events given after run
  obtain ⟨-, same, -⟩ := runs_fail.1 run
  exact absurd (Except.error.inj same).symm (other given)

/-- An error that is named after another cause is no configuration error. -/
theorem blames_named {ε : Type} {tried : Except ε α} {name : ε → Error}
    (other : ∀ given cause, name given ≠ .config cause) : (settle (tried.mapError name)).Blames state := by
  refine blames_settle fun cause same => ?_
  cases tried with
  | ok result => cases same
  | error given => exact other given cause (Except.error.inj same)

theorem blames_granted {answer : Except EngineError α} : (granted answer).Blames state := by
  intro events cause after run
  obtain ⟨-, wrong, -⟩ := runs_granted.1 run
  cases answer <;> cases wrong

theorem blames_get : (get : Act σ σ).Blames state := by
  intro events cause after run
  obtain ⟨-, wrong, -⟩ := runs_get.1 run
  cases wrong

theorem blames_modify {change : σ → σ} : (modify change).Blames state := by
  intro events cause after run
  obtain ⟨-, wrong, -⟩ := runs_modify.1 run
  cases wrong

theorem blames_ask {request : Call} : (ask request : Act σ request.Answer).Blames state := by
  intro events cause after run
  obtain ⟨_, -, wrong, -⟩ := runs_ask.1 run
  cases wrong

theorem blames_bind {act : Act σ α} {next : α → Act σ β} (first : act.Blames state)
    (second : ∀ {result middle}, (next result).Blames middle) : (act >>= next).Blames state := by
  intro events cause after run
  rcases runs_bind.1 run with ⟨_, same, failed⟩ | ⟨_, _, _, _, rfl, -, onward⟩
  · cases same
    exact first _ _ _ failed
  · exact (second _ _ _ onward).before _

theorem blames_within {part : σ → τ} {put : τ → σ → σ} {act : Act τ α} (inside : act.Blames (part state)) :
    (act.within part put).Blames state := by
  intro events cause after run
  obtain ⟨_, -, within⟩ := runs_within.1 run
  exact inside _ _ _ within

theorem blames_forM {items : List β} {act : β → Act σ PUnit}
    (each : ∀ item ∈ items, ∀ {state}, (act item).Blames state) : (items.forM act).Blames state := by
  induction items generalizing state with
  | nil => exact blames_pure
  | cons item rest ih =>
    refine blames_bind (each item List.mem_cons_self) ?_
    exact ih fun other member => each other (List.mem_cons_of_mem _ member)

end Act

/-- What the layer does with the transport has no error of its own. -/
theorem Relay.blames_play {relay : Relay α} {target : Option Handle} {counters : Counters} :
    (relay.play target).Blames counters := by
  intro events cause after run
  obtain ⟨-, _, wrong, -⟩ := outcome?_of_play run
  cases wrong

theorem CodecSession.blames_close {codec : CodecSession} {target : Option Handle} {counters : Counters} :
    (codec.close target).Blames counters := by
  cases codec with
  | writer opened => exact Act.blames_bind Act.blames_ask Relay.blames_play
  | reader opened => exact Act.blames_bind Act.blames_ask Relay.blames_play

namespace Track

open Act

variable {track : Track}

theorem blames_attached {binding : Binding} {handle : Handle} :
    (settle (binding.attach handle) : Act Track Binding).Blames track := by
  refine blames_settle fun cause same => ?_
  unfold Binding.attach at same
  split at same <;> cases same

theorem blames_attach {handle : Handle} : (attach handle).Blames track := by
  refine blames_bind blames_get fun {track _} => ?_
  split
  · exact blames_pure
  · exact blames_bind blames_attached blames_modify

theorem blames_setBinding {binding : Binding} : (setBinding binding).Blames track := by
  refine blames_bind blames_get fun {track _} => ?_
  split
  · exact blames_fail nofun
  · dsimp only
    split
    · exact blames_bind blames_pure (blames_bind blames_modify blames_pure)
    · exact blames_bind blames_attached (blames_bind blames_modify blames_pure)

theorem blames_setCodec {codec : CodecSession} : (setCodec codec).Blames track := by
  refine blames_bind blames_get fun {track _} => ?_
  split
  · exact blames_bind (blames_within CodecSession.blames_close) (blames_fail nofun)
  · exact blames_modify

/-- Here an error of the layer comes in, whatever it is. -/
theorem blames_openWriter {params : StreamParams} {index : Nat} {transport : TransportInfo} :
    (openWriter params index transport).Blames track := by
  refine blames_bind (fun events cause after run => ?_) (blames_bind blames_setCodec blames_pure)
  obtain ⟨_, -, called⟩ := runs_relay.1 run
  obtain ⟨relay, played, rfl, plays⟩ := Relay.runs_called called
  have handed : Handed cause ([] ++ ⟨.layer (.openWriter params index transport), relay⟩ :: (played ++ [])) :=
    .handed [] [] plays
  rwa [List.nil_append, List.append_nil] at handed

theorem blames_add {init : TrackInit} : (add init).Blames track := by
  refine blames_bind blames_get fun {track _} => ?_
  split
  · exact blames_fail nofun
  · refine blames_bind blames_ask (blames_bind blames_granted (blames_bind blames_modify ?_))
    exact blames_bind blames_attach blames_pure

end Track

/-! The exchange and the wait. -/

theorem Exchange.Posts.unconfigured {join : Joining} {exchange : Exchange} {offer : Bytes} {remaining : Nat}
    {target : Url} {outcome : Except Error (Url × HttpResponse)}
    (posts : Posts join exchange offer remaining target events outcome) : outcome ≠ .error (.config cause) := by
  induction posts with
  | failed posted =>
    intro same
    cases same
    generalize ended : Except.error (Error.config cause) = outcome at posted
    cases posted with
    | unsendable | cancelled | abandoned => cases ended
    | @ended _ _ progress =>
      cases told : progress.result <;> rw [told] at ended <;> cases ended
  | answered | endless | lost => nofun
  | followed posted redirect found rest ih => exact ih

theorem Exchange.Creates.unconfigured {join : Joining} {exchange after : Exchange} {outcome : Except Error Unit}
    (creates : Creates join exchange events outcome after) : outcome ≠ .error (.config cause) := by
  cases creates with
  | occupied | unoffered | untold | oversized => nofun
  | unposted vacant small posts =>
    intro same
    exact posts.unconfigured (congrArg Except.error (Except.error.inj same))
  | posted vacant small posts settles =>
    cases settles with
    | rejected | unlocated | unusable => nofun
    | applied created located fit result => cases result <;> nofun

theorem Wait.verdict_unconfigured {state : ConnectionState} : verdict state ≠ some (.error (.config cause)) := by
  cases state <;> nofun

theorem Wait.Poll.verdict_unconfigured {timeout deadline : Nat} {poll : Poll} :
    poll.verdict timeout deadline ≠ some (.error (.config cause)) := by
  intro told
  cases state : Wait.verdict poll.state with
  | some outcome =>
    rw [Wait.Poll.verdict_state state] at told
    rw [told] at state
    exact Wait.verdict_unconfigured state
  | none =>
    rcases Wait.Poll.verdict_pending state told with ⟨-, wrong⟩ | ⟨-, -, wrong⟩
    · cases wrong
    · cases wrong

namespace Context

open Act

variable {context : Context}

theorem blames_requirePeer : requirePeer.Blames context := by
  refine blames_bind blames_get fun {context _} => ?_
  split
  · exact blames_pure
  · exact blames_fail nofun

theorem blames_onTrack {index : Nat} {act : Act Track α} (inside : ∀ track, act.Blames track) :
    (Context.onTrack index act).Blames context := by
  intro events cause after run
  rcases onTrack_runs_iff.1 run with ⟨-, -, wrong, -⟩ | ⟨track, _, -, -, acted⟩
  · cases wrong
  · exact inside track _ _ _ acted

theorem blames_createResource : createResource.Blames context := by
  refine blames_bind blames_requirePeer (blames_within fun events cause after run => ?_)
  exact absurd rfl (Exchange.creates_of_runs run).unconfigured

theorem blames_waitConnected : waitConnected.Blames context := by
  intro events cause after run
  obtain ⟨_, waited, -⟩ := Wait.notes_of_runs run
  obtain ⟨-, _, _, _, -, -, polls⟩ := Wait.connected_polls.1 waited
  obtain ⟨early, last, -, -, decided⟩ := polls.decides
  exact absurd decided Wait.Poll.verdict_unconfigured

end Context

namespace Publisher

open Act

variable {publisher : Publisher} {params : StreamParams} {index : Nat}

/-- The codec of a stream that the engine carries is found there, so that nothing is left to complain about. -/
theorem addStream_blames {codec : EngineCodec} (carried : EngineCodec.ofCodec? params.codec = some codec) :
    (addStream params index).Blames publisher := by
  have found : demand (Error.config (.unsupportedCodec (timed params).codec.name))
      (EngineCodec.ofCodec? (timed params).codec) = .ok codec := by
    rw [timed_eq, demand_eq_ok_iff]
    exact carried
  refine blames_bind blames_modify fun {_ _} => ?_
  refine blames_bind (blames_within ?_) fun {binding _} => ?_
  · exact blames_bind Context.blames_requirePeer
      (blames_bind blames_get (Context.blames_onTrack fun _ => Track.blames_setBinding))
  refine blames_bind (blames_within (Context.blames_onTrack fun _ => Track.blames_openWriter)) fun {writer _} => ?_
  refine blames_bind (blames_named nofun) fun {profile _} => ?_
  refine blames_bind (blames_named nofun) fun {framing _} => ?_
  refine blames_bind blames_modify fun {_ _} => ?_
  refine blames_bind (blames_settle fun cause => by rw [found]; nofun) fun {codec _} => ?_
  refine blames_bind blames_get fun {publisher _} => ?_
  refine blames_bind (blames_within ?_) (blames_within (Context.blames_onTrack fun _ => blames_modify))
  exact blames_bind Context.blames_requirePeer (Context.blames_onTrack fun _ => Track.blames_add)

theorem setup_blames
    (carried : ∀ params ∈ publisher.streams, ∃ codec, EngineCodec.ofCodec? params.codec = some codec) :
    setup.Blames publisher := by
  unfold Act.Blames setup
  simp only [Act.runs_get_bind]
  refine blames_bind (blames_forM fun (params, index) member {_} => ?_) ?_
  · obtain ⟨codec, found⟩ := carried params (List.fst_mem_of_mem_zipIdx member)
    exact addStream_blames found
  · exact blames_bind (blames_within Context.blames_createResource) (blames_within Context.blames_waitConnected)

/-- Once the streams and the configuration are taken, a configuration error has come from the layer. -/
theorem openSession_blames {config : ClientConfig} {url : Url} {streams : List StreamParams}
    (fit : checkStreams streams = .ok ()) (valid : config.validate = .ok url)
    (carried : ∀ params ∈ streams, ∃ codec, EngineCodec.ofCodec? params.codec = some codec)
    (run : (openSession config streams).Runs () events (.error (.config cause)) ()) : Handed cause events := by
  have opens := Client.opens_of_publisher run
  generalize failed : (Except.error (Error.config cause)).map Client.publisher = outcome at opens
  cases opens with
  | unfit refused => cases refused.symm.trans fit
  | unbegun _ fails =>
    cases failed
    cases fails with
    | invalid refused => cases refused.symm.trans valid
  | unopened _ begins sets closes =>
    cases failed
    cases sets with
    | ingest setting => exact ((setup_blames carried _ _ _ setting).before _).after _
  | opened => cases failed

end Publisher
end WhipWhep
