import KernelForge.Bytes

/-!
Contract: writers that accept pieces of output one at a time and may fail.

Owns: the interface of a writer, offering it a list of pieces until one fails,
the writer that takes everything and the writer that takes a fixed number of
bytes and then fails.

A failing writer may keep a part of the piece. After a failure the caller decides
whether anything more is offered.

Does not own: what is written; that is `KernelForge.Echo.Escaped` and
`KernelForge.Command`.
-/

namespace KernelForge

/-- A writer with states `σ`. Accepting a piece gives the next state and whether
the whole piece was taken. -/
structure Writer (σ : Type) where
  accept : σ → Bytes → σ × Bool

namespace Writer

/-- Offers pieces in order until one of them is not taken whole. -/
def acceptAll {σ : Type} (writer : Writer σ) : σ → List Bytes → σ × Bool
  | state, [] => (state, true)
  | state, piece :: rest =>
      match writer.accept state piece with
      | (next, true) => acceptAll writer next rest
      | (next, false) => (next, false)

/-- The writer that keeps everything; its state is what was written. -/
def unlimited : Writer Bytes where
  accept written piece := (written ++ piece, true)

/-- The writer that takes the given number of bytes in all and then fails; its
state is what was written. -/
def limited (capacity : Nat) : Writer Bytes where
  accept written piece :=
    let room := capacity - written.length
    (written ++ piece.take room, piece.length ≤ room)

/-- The writer that a capacity asks for; none is no limit. -/
def withCapacity : Option Nat → Writer Bytes
  | none => unlimited
  | some capacity => limited capacity

theorem acceptAll_unlimited (written : Bytes) (pieces : List Bytes) :
    unlimited.acceptAll written pieces = (written ++ pieces.flatten, true) := by
  induction pieces generalizing written with
  | nil => simp [acceptAll]
  | cons piece rest inductionHypothesis =>
      show unlimited.acceptAll (written ++ piece) rest = _
      rw [inductionHypothesis, List.flatten_cons, List.append_assoc]

end Writer

end KernelForge
