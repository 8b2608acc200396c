/-
Bodies of responses. A body is polled for one frame after another until it answers that there is
none; it may tell before a poll that it has ended, and how many bytes it holds.
-/
import SinglePage.Bytes

namespace SinglePage

/-- What a poll can yield. -/
inductive Frame where
  | data (bytes : Bytes)
  | trailers (fields : List (String × Bytes))
  | failure (detail : String)
  deriving DecidableEq, Repr

/-- The data of a frame. -/
def Frame.bytes : Frame → Bytes
  | .data bytes => bytes
  | _ => []

/-- A body. -/
inductive Body where
  /-- Data in memory, which comes in one frame. Its size and its end are known. -/
  | whole (data : Bytes)
  /-- What is left to read of a file. Only a poll tells that it has ended. -/
  | file (rest : Bytes)
  /-- Frames to yield. -/
  | frames (rest : List Frame) (knowsEnd : Bool) (size : Option Nat)
  deriving DecidableEq, Repr

namespace Body

/-- A body without data. -/
def empty : Body := .whole []

/-- The most bytes of a file in one frame. -/
def frameSize : Nat := 65536

/-- The next frame, if there is one, and the body after it. -/
def poll : Body → Option Frame × Body
  | .whole [] => (none, .whole [])
  | .whole data => (some (.data data), .whole [])
  | .file [] => (none, .file [])
  | .file rest => (some (.data (rest.take frameSize)), .file (rest.drop frameSize))
  | .frames [] knowsEnd size => (none, .frames [] knowsEnd size)
  | .frames (f :: rest) knowsEnd size => (some f, .frames rest knowsEnd size)

/-- The body tells that it has ended. -/
def isEnd : Body → Bool
  | .whole data => data.isEmpty
  | .file _ => false
  | .frames rest knowsEnd _ => knowsEnd && rest.isEmpty

/-- The fewest and, if they are known, the most bytes that the body tells it has. -/
def sizeHint : Body → Nat × Option Nat
  | .whole data => (data.length, some data.length)
  | .file _ => (0, none)
  | .frames _ _ size => (size.getD 0, size)

/-- The number of bytes, if the body tells it. -/
def size? (b : Body) : Option Nat := b.sizeHint.2.filter (· = b.sizeHint.1)

/-- How many frames are left. -/
def framesLeft : Body → Nat
  | .whole data => if data.isEmpty then 0 else 1
  | .file rest => (rest.length + frameSize - 1) / frameSize
  | .frames rest _ _ => rest.length

end Body

end SinglePage
