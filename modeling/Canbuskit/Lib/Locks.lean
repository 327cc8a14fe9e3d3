import Mathlib.Algebra.Order.Ring.Int

/-! Locks of a concurrent system whose threads are places in a program. A mutex is its
holder; a read-write lock is its writer and a count of readers. `Guards` says that a lock is
held exactly by the thread whose place lies inside the critical section. -/
namespace Canbuskit.Locks

variable {Thread Place : Type}

structure RWMutex (Thread : Type) where
  writer : Option Thread
  readers : Nat
  deriving DecidableEq

namespace RWMutex

def free : RWMutex Thread := ⟨none,0⟩

def canLock (lock : RWMutex Thread) : Bool := lock.writer.isNone && lock.readers == 0
def canRLock (lock : RWMutex Thread) : Bool := lock.writer.isNone

def locked (lock : RWMutex Thread) (thread : Thread) : RWMutex Thread :=
  { lock with writer := some thread }

def unlocked (lock : RWMutex Thread) : RWMutex Thread := { lock with writer := none }

def rlocked (lock : RWMutex Thread) : RWMutex Thread := { lock with readers := lock.readers + 1 }
def runlocked (lock : RWMutex Thread) : RWMutex Thread := { lock with readers := lock.readers - 1 }

theorem canLock_writer {lock : RWMutex Thread} (can : lock.canLock) : lock.writer = none := by
  simp only [canLock,Bool.and_eq_true,Option.isNone_iff_eq_none] at can
  exact can.1

end RWMutex

/-- A thread is inside the critical section if and only if it holds the lock. -/
def Guards (holder : Option Thread) (inside : Place → Bool) (place : Thread → Place) : Prop :=
  ∀ thread, inside (place thread) = true ↔ holder = some thread

variable {holder : Option Thread} {inside : Place → Bool} {place : Thread → Place}
  {thread : Thread} {next : Place}

theorem Guards.exclusive (guards : Guards holder inside place) {other : Thread}
    (first : inside (place thread)) (second : inside (place other)) : thread = other :=
  Option.some.inj (((guards thread).mp first).symm.trans ((guards other).mp second))

variable [DecidableEq Thread]

theorem Guards.enter (guards : Guards none inside place) (enters : inside next) :
    Guards (some thread) inside (Function.update place thread next) := by
  intro other
  by_cases same : other = thread
  · subst same
    simp [enters]
  · have outside : ¬ inside (place other) = true := by simp [guards other]
    simp [Function.update_of_ne same,outside,Ne.symm same]

theorem Guards.leave (guards : Guards holder inside place) (held : inside (place thread))
    (leaves : inside next = false) :
    Guards none inside (Function.update place thread next) := by
  intro other
  by_cases same : other = thread
  · subst same
    simp [leaves]
  · have outside : ¬ inside (place other) = true := fun within =>
      same (guards.exclusive within held)
    simp [Function.update_of_ne same,outside]

theorem Guards.stay (guards : Guards holder inside place)
    (stays : inside next = inside (place thread)) :
    Guards holder inside (Function.update place thread next) := by
  intro other
  by_cases same : other = thread
  · subst same
    simp [stays,guards other]
  · simp [Function.update_of_ne same,guards other]

end Canbuskit.Locks
