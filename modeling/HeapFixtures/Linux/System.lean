/-
# The system around a process

A machine answers a process: it opens log files on some day, and has room for some threads
and pieces of memory.  Command lines and filters are read as their libraries read them.
-/

import HeapFixtures.Command.Line
import HeapFixtures.Execution
import HeapFixtures.Linux.Appender
import HeapFixtures.Linux.Room
import HeapFixtures.Log.Filter.Reading

namespace HeapFixtures
namespace Linux

/-- A machine on some day. -/
def Machine.system (machine : Machine) (day : String) : Execution.System Directory where
  log := ⟨Log.Filter.reading, fun directory => directory.openLog day, Directory.listing⟩
  readLine := Command.reading
  refusal := machine.refusal
  lacks size := machine.memory ≤ size

def Machine.heap (machine : Machine) : Heap := .bounded machine.blockLimit

end Linux
end HeapFixtures
