import CxlFabric.FrameStreams
import CxlFabric.WorkerProcess

/-! # Streams that break off

A call of `send` can fail and a peer can be gone at any byte. The receiver has then taken
the frames that are there as a whole off the stream, those without a payload for them among
them, and its next call says that the frame is cut. -/
namespace CxlFabric

namespace ByteSink
variable {σ : Type} (sink : ByteSink σ)

end ByteSink

namespace ByteSource
variable {σ : Type} {src : ByteSource σ} {s : σ} {f : Frame} {rest : List UInt8}

end ByteSource

/-- A sender's end that takes bytes one by one as long as there is room. -/
structure Outlet where
  room : ℕ
  bytes : List UInt8 := []

namespace Outlet

def send (o : Outlet) : List UInt8 → Option (ℕ × Outlet)
  | [] => none
  | x :: _ => if o.room = 0 then none else some (1, ⟨o.room - 1, o.bytes ++ [x]⟩)

def sink : ByteSink Outlet where
  send := send
  taken := bytes
  takes := by
    rintro o o' (_ | ⟨x, data⟩) n h
    · cases h
    · rw [send] at h
      split at h
      · cases h
      · cases h
        simp

end Outlet

end CxlFabric
