import Mathlib.Algebra.Group.Nat.Defs
import Mathlib.Tactic.Common

/-! The wait status macros of `sys/wait.h`. A status is the packed integer
`waitpid` and a `NOTE_EXIT` event deliver. -/
namespace Vmstated.Libprocwatch

def wstatus (status : Nat) : Nat := status &&& 0o177
def wstopped : Nat := 0o177

def wifexited (status : Nat) : Bool := wstatus status == 0
def wexitstatus (status : Nat) : Nat := status >>> 8

/-- 0x13 is the status of a continued process. -/
def wifsignaled (status : Nat) : Bool :=
  wstatus status != wstopped && wstatus status != 0 && status != 0x13

def toUshort (n : Nat) : Nat := n % 2 ^ 16

/-- A status of a process that ended. The kernel packs a signal with exit
code zero. -/
structure Termination where
  status : Nat
  ended : wifexited status = true ∨ wifsignaled status = true ∧ wexitstatus status = 0

end Vmstated.Libprocwatch
