import WhipWhep.Error
import WhipWhep.Text.Hex

/-!
Reading from the front of bytes, each read where the one before has ended. A read of more bytes than are left is no
failure that a reader could report: the reading has no outcome at all then. A reader that looks how many there are
before it reads has an outcome on whatever bytes it is given.
-/

namespace WhipWhep.Avc

/-- What the reading of some bytes comes to: a result and the bytes that are left, a failure that is reported, or
nothing if it goes past their end. -/
def Cursor (α : Type) : Type := Bytes → Option (Except MediaError (α × Bytes))

namespace Cursor

variable {α β : Type} {bytes rest : Bytes}

instance : Monad Cursor where
  pure result := fun bytes => some (.ok (result, bytes))
  bind reader next := fun bytes =>
    match reader bytes with
    | none => none
    | some (.error cause) => some (.error cause)
    | some (.ok (result, rest)) => next result rest

def refuse (cause : MediaError) : Cursor α := fun _ => some (.error cause)

/-- The number of bytes that are left. -/
def left : Cursor Nat := fun bytes => some (.ok (bytes.length, bytes))

/-- The next byte. -/
def byte : Cursor UInt8
  | [] => none
  | b :: rest => some (.ok (b, rest))

/-- As many bytes as are asked for. -/
def take (count : Nat) : Cursor Bytes := fun bytes =>
  if count ≤ bytes.length then some (.ok (bytes.splitAt count)) else none

variable {next : α → Cursor β}

@[simp] theorem pure_run (result : α) : (pure result : Cursor α) bytes = some (.ok (result, bytes)) := rfl

@[simp] theorem refuse_run (cause : MediaError) : (refuse cause : Cursor α) bytes = some (.error cause) := rfl

theorem take_run {count : Nat} (enough : count ≤ bytes.length) :
    take count bytes = some (.ok (bytes.take count, bytes.drop count)) := by
  rw [take, if_pos enough, List.splitAt_eq]

theorem bind_run (reader : Cursor α) : (reader >>= next) bytes = match reader bytes with
    | none => none
    | some (.error cause) => some (.error cause)
    | some (.ok (result, rest)) => next result rest :=
  rfl

@[simp] theorem left_bind {next : Nat → Cursor β} : (left >>= next) bytes = next bytes.length bytes := rfl

@[simp] theorem byte_bind {next : UInt8 → Cursor β} {b : UInt8} : (byte >>= next) (b :: rest) = next b rest := rfl

theorem take_bind {count : Nat} {next : Bytes → Cursor β} (enough : count ≤ bytes.length) :
    (take count >>= next) bytes = next (bytes.take count) (bytes.drop count) := by
  rw [bind_run, take_run enough]

end Cursor
end WhipWhep.Avc
