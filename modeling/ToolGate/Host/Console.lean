/-
What a session needs of the program around it.

* `Console` — the streams, the clock and chance, in any monad that has them.
-/
import ToolGate.RequestId
import ToolGate.Timestamp

namespace ToolGate.Host

/-- The streams of a program, its clock and its source of ids. -/
class Console (m : Type → Type) where
  /-- The bytes of the next line with its end; none when there are no more lines. -/
  nextLine : m ByteArray
  now : m Timestamp
  /-- An id that no request has had yet. -/
  freshId : m RequestId
  /-- Write a text for the host; false if the host has gone away. -/
  write : String → m Bool
  /-- Tell whoever runs the program that something is wrong. -/
  complain : String → m Unit

end ToolGate.Host
