import Chip8.HostNumber
import Chip8.Random.Source

/-!
# Replay sources from the host

A host hands over the bytes to replay as a list of numbers, which may be written as text. A list
that holds no value in some place or is no array is refused first, then the first number that is
none or does not fit a byte, and last a list that is empty or nested.
-/

namespace Chip8

namespace HostValue

/-- The value is none. -/
def isNull : HostValue → Bool
  | null => true
  | _ => false

end HostValue

namespace RandomSource

/-- The source that replays the bytes that a host hands over. -/
def ofHost (values : HostValue) : Except Failure RandomSource :=
  if values.leaves.any HostValue.isNull then .error .malformed
  else
    match values.arrayShape? with
    | none => .error .malformed
    | some extents => do
      let bytes ← values.leaves.mapM HostValue.toByte
      if h : extents.length = 1 ∧ bytes ≠ [] then return .replay bytes h.2
      else .error .nothingToReplay

/-- A source from the host replays its values, each as a byte. -/
theorem ofHost_eq_ok {values : HostValue} {source : RandomSource} (h : ofHost values = .ok source) :
    ∃ bytes, ∃ hne : bytes ≠ [],
      values.leaves.mapM HostValue.toByte = .ok bytes ∧ source = .replay bytes hne := by
  unfold ofHost at h
  split at h
  · cases h
  · split at h
    · cases h
    · cases hbytes : values.leaves.mapM HostValue.toByte with
      | error f =>
        rw [hbytes] at h
        cases h
      | ok bytes =>
        simp only [hbytes, bind, Except.bind] at h
        split at h
        · rename_i hflat
          exact ⟨bytes, hflat.2, rfl, (Except.ok.inj h).symm⟩
        · cases h

end RandomSource

end Chip8
