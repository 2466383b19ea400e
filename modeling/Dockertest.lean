import Dockertest.Basic
import Dockertest.Composition
import Dockertest.Container
import Dockertest.Logs
import Dockertest.Runner.Keeper
import Dockertest.Runner.Resolve
import Dockertest.Runner.Names
import Dockertest.Runner.Sort
import Dockertest.Runner.Create
import Dockertest.Runner.Start
import Dockertest.Runner.Schedule
import Dockertest.Runner.Teardown
import Dockertest.Runner.Run
import Dockertest.Runner.Outcomes
import Dockertest.Runner.Ending
import Dockertest.Runner.Resources
