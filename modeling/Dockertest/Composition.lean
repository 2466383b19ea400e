import Dockertest.Basic

/-!
# Compositions

`src/composition.rs`.  A `Composition` is what the user declares for one container: its
image, the name it is known by (its *handle*), its environment, its start policy and the
handles whose final container names are to be injected into its environment.

The sources under `src/` mix two versions of the crate: `runner.rs` reads the fields
`named_volumes` and `final_named_volume_names` of a `Composition`, and the log options of a
container, which `composition.rs` there does not declare.  They are declared here as
`runner.rs` and `container.rs` use them.  The readiness strategy, the command and the
bind-mount volumes are read only by `Composition::create`, which the runner's model takes as
a parameter, and are left out.
-/

namespace Dockertest

/-- `StartPolicy`: relaxed compositions start concurrently, strict ones one by one in order. -/
inductive StartPolicy where
  | relaxed
  | strict
deriving Repr, DecidableEq

/-- `LogSource`: which output streams of a container are captured. -/
inductive LogSource where
  | stdErr
  | stdOut
  | both
deriving Repr, DecidableEq

/-- `LogAction`: where captured lines go. -/
inductive LogAction where
  | forward
  | forwardToStdErr
  | forwardToStdOut
  | forwardToFile (path : String)
deriving Repr, DecidableEq

/-- `LogPolicy`: capture always, or only when the test failed. -/
inductive LogPolicy where
  | always
  | onError
deriving Repr, DecidableEq

structure LogOptions where
  action : LogAction
  policy : LogPolicy
  source : LogSource
deriving Repr, DecidableEq

/-- The part of an `Image` the runner reads. -/
structure Image where
  repository : String
deriving Repr, DecidableEq

structure Composition where
  userProvidedContainerName : Option String
  containerName : String
  env : HashMap String
  startPolicy : StartPolicy
  image : Image
  /-- `(handle, env)` pairs: inject the container name of `handle` into `env`. -/
  injectContainerNameEnv : List (String × String)
  /-- `(volume name, path in container)` pairs. -/
  namedVolumes : List (String × String)
  finalNamedVolumeNames : List String
deriving Repr, DecidableEq

namespace Composition

def withRepository (repository : String) : Composition where
  userProvidedContainerName := none
  containerName := repository.replace "/" "-"
  env := HashMap.empty
  startPolicy := .relaxed
  image := ⟨repository⟩
  injectContainerNameEnv := []
  namedVolumes := []
  finalNamedVolumeNames := []

def withStartPolicy (c : Composition) (startPolicy : StartPolicy) : Composition :=
  { c with startPolicy }

/-- `with_env`: replaces the whole environment. -/
def withEnv (c : Composition) (env : HashMap String) : Composition :=
  { c with env }

def withContainerName (c : Composition) (containerName : String) : Composition :=
  { c with userProvidedContainerName := some containerName }

def setEnv (c : Composition) (name value : String) : Composition :=
  { c with env := c.env.insert name value }

def injectContainerName (c : Composition) (handle env : String) : Composition :=
  { c with injectContainerNameEnv := c.injectContainerNameEnv ++ [(handle, env)] }

/-- The handle: the user provided container name, else the image repository. -/
def handle (c : Composition) : String :=
  match c.userProvidedContainerName with
  | none => c.image.repository
  | some n => n

/-- `configure_container_name`: `ns-name-suffix` for the run's namespace `ns`, with `/` in the
name replaced by `_`. -/
def configureContainerName (c : Composition) (ns suffix : String) : Composition :=
  let name := match c.userProvidedContainerName with
    | none => c.image.repository
    | some n => n
  let strippedName := name.replace "/" "_"
  { c with containerName := ns ++ "-" ++ strippedName ++ "-" ++ suffix }

@[simp] theorem configureContainerName_handle (c : Composition) (ns suffix : String) :
    (c.configureContainerName ns suffix).handle = c.handle := rfl

@[simp] theorem configureContainerName_env (c : Composition) (ns suffix : String) :
    (c.configureContainerName ns suffix).env = c.env := rfl

@[simp] theorem configureContainerName_injectContainerNameEnv (c : Composition)
    (ns suffix : String) :
    (c.configureContainerName ns suffix).injectContainerNameEnv =
      c.injectContainerNameEnv := rfl

end Composition

end Dockertest
