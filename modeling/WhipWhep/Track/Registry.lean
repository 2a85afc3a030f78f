import WhipWhep.Track.Basic

/-!
The tracks of a session. Their number is fixed, and the place of a track is the index of the stream
that it carries.
-/

namespace WhipWhep

structure Registry where
  tracks : List Track
  deriving DecidableEq

namespace Registry

variable {α : Type}

def allocate (count : Nat) : Registry := ⟨(List.range count).map Track.fresh⟩

def get (registry : Registry) (index : Nat) : Except Error Track :=
  demand (.invalidStream index) registry.tracks[index]?

/-- An act on the track at an index. -/
def onTrack (index : Nat) (act : Act Track α) : Act Registry α := fun registry =>
  match registry.tracks[index]? with
  | none => .done (.error (.invalidStream index), registry)
  | some track =>
    (act track).bind fun (outcome, track) => .done (outcome, ⟨registry.tracks.set index track⟩)

def handles (registry : Registry) : List (Option Handle) := registry.tracks.map Track.handle

/-- The number of tracks that still hold anything on the engine's side. -/
def allocated (registry : Registry) : Nat := registry.tracks.countP Track.isAllocated

def counters (registry : Registry) : List Counters := registry.tracks.map Track.counters

/-- Takes over a codec session. One that finds no track is closed. -/
def setCodec (index : Nat) (codec : CodecSession) : Act Registry Unit := do
  let registry ← Act.get
  match registry.tracks[index]? with
  | none => do
    Act.within (fun _ => Counters.zero) (fun _ registry => registry) (codec.close none)
    Act.fail (.invalidStream index)
  | some _ => Registry.onTrack index (Track.setCodec codec)

/-- Releases the tracks in their order. -/
def release (hasPeer : Bool) : Act Registry Unit := do
  let registry ← Act.get
  (List.range registry.tracks.length).forM fun index => Registry.onTrack index (Track.release hasPeer)

end Registry
end WhipWhep
