import Dockertest.Composition

/-!
# Containers

`src/container.rs`.  A container moves from `PendingContainer` (created on the daemon) to
`RunningContainer` (started and ready); a `CleanupContainer` is what teardown needs of either.
The docker client, the readiness strategy, the IP address and the port map are not modelled:
no modelled function reads them.
-/

namespace Dockertest

structure PendingContainer where
  name : String
  id : String
  handle : String
  startPolicy : StartPolicy
  isStatic : Bool
  logOptions : Option LogOptions
deriving Repr, DecidableEq

structure RunningContainer where
  handle : String
  id : String
  name : String
  isStatic : Bool
  logOptions : Option LogOptions
deriving Repr, DecidableEq

structure CleanupContainer where
  id : String
  isStatic : Bool
  name : String
  logOptions : Option LogOptions
deriving Repr, DecidableEq

/-- `From<PendingContainer> for RunningContainer`, what a readiness strategy returns. -/
def RunningContainer.fromPending (c : PendingContainer) : RunningContainer where
  handle := c.handle
  id := c.id
  name := c.name
  isStatic := c.isStatic
  logOptions := c.logOptions

namespace CleanupContainer

/-- `From<&PendingContainer> for CleanupContainer` (and its by-value twin). -/
def fromPending (c : PendingContainer) : CleanupContainer where
  id := c.id
  isStatic := c.isStatic
  name := c.name
  logOptions := c.logOptions

/-- `From<&RunningContainer> for CleanupContainer` (and its by-value twin). -/
def fromRunning (c : RunningContainer) : CleanupContainer where
  id := c.id
  isStatic := c.isStatic
  name := c.name
  logOptions := c.logOptions

@[simp] theorem fromRunning_fromPending (c : PendingContainer) :
    fromRunning (RunningContainer.fromPending c) = fromPending c := rfl

@[simp] theorem fromPending_id (c : PendingContainer) : (fromPending c).id = c.id := rfl

@[simp] theorem fromRunning_id (c : RunningContainer) : (fromRunning c).id = c.id := rfl

@[simp] theorem map_fromPending_id (l : List PendingContainer) :
    (l.map fromPending).map CleanupContainer.id = l.map PendingContainer.id := by
  simp [Function.comp_def]

@[simp] theorem map_fromRunning_id (l : List RunningContainer) :
    (l.map fromRunning).map CleanupContainer.id = l.map RunningContainer.id := by
  simp [Function.comp_def]

end CleanupContainer

end Dockertest
