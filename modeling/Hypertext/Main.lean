import Hypertext.Program

/-!
# Command line

Lays out the document on standard input.
-/

/-- Reads a stream to its end. -/
partial def Hypertext.Program.readToEnd (input : IO.FS.Stream) (read : ByteArray) :
    IO ByteArray := do
  let chunk ← input.read 65536
  if chunk.isEmpty then return read else readToEnd input (read ++ chunk)

def main : IO UInt32 := do
  let input ← Hypertext.Program.readToEnd (← IO.getStdin) ByteArray.empty
  let result := Hypertext.Program.run input.toList
  (← IO.getStdout).write ⟨result.output.toArray⟩
  (← IO.getStderr).write ⟨result.errors.toArray⟩
  return UInt32.ofNat result.status
