/-
Module: Integr8s.Scripts.Entrypoint
Purpose: What the pod's entrypoint makes of the script's two output streams:
  the capture of a stream from the reads of its pipe, and the frame that it
  prints into the pod's log.
Trusted boundary: human-reviewed spec
Main exports: PipeRead, Entrypoint.capture, Entrypoint.emit, Entrypoint.frame
-/
import Integr8s.Lib.PythonBytes

namespace Integr8s

/-- What one read of a pipe brings before the end of the stream: at least one
byte, and at most a block. -/
structure PipeRead where
  bytes : PyBytes
  nonempty : bytes ≠ []
  block : bytes.length ≤ 65536

/-- The stream that some reads bring. -/
def streamOf (reads : List PipeRead) : PyBytes :=
  reads.flatMap PipeRead.bytes

namespace Entrypoint

def maxStreamBytes : Nat := 262144

/-- Keep the first bytes of a stream: blocks are appended while the file is
not over the limit, until a read brings nothing.  The rest is drained. -/
def capture (dest : PyBytes) : List PipeRead → PyBytes
  | [] => dest
  | read :: reads =>
      if dest.length ≤ maxStreamBytes then capture (dest ++ read.bytes) reads
      else dest

/-- The line that announces a stream and its length. -/
def header (marker : String) (size : Nat) : PyBytes :=
  PyBytes.ofAscii marker ++ PyBytes.ofAscii " " ++
    PyBytes.ofAscii (toString size) ++ PyBytes.ofAscii "\n"

/-- The notice at the end of a stream that is cut off. -/
def notice (stream : String) : PyBytes :=
  PyBytes.ofAscii ("[" ++ stream ++ " truncated: showing the first " ++
    toString maxStreamBytes ++ " bytes]")

/-- Print a captured stream behind its header. -/
def emit (marker stream : String) (source : PyBytes) : PyBytes :=
  let size := source.length
  if size ≤ maxStreamBytes then header marker size ++ source.take size
  else
    header marker (maxStreamBytes + (notice stream).length + 2) ++
      source.take maxStreamBytes ++
      (PyBytes.ofAscii "\n" ++ notice stream ++ PyBytes.ofAscii "\n")

/-- What the entrypoint prints once both readers have reached the end of their
streams. -/
def frame (stdout stderr : List PipeRead) : PyBytes :=
  emit "STDOUT" "stdout" (capture [] stdout) ++
    emit "STDERR" "stderr" (capture [] stderr)

end Entrypoint

end Integr8s
