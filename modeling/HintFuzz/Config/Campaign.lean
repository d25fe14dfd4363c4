import HintFuzz.Campaign.Run
import HintFuzz.Config.Basic
import HintFuzz.Engine.External

/-!
# Campaigns of configurations

The commands of a configuration are run by a host.
-/

namespace HintFuzz

/-- The engine that is configured. -/
def EngineConfig.engine (host : Host) (config : EngineConfig) : Engine Files :=
  .onHost host config.name config.command

namespace Config

/-- The two engines of a configuration and how they are run. -/
def judge (host : Host) (config : Config) : Judge Files where
  a := config.engineA.engine host
  b := config.engineB.engine host
  timeout := config.timeout
  confirm := config.confirmFindings

/-- The campaign of a configuration over a catalog. -/
def campaign (host : Host) (config : Config) (catalog : Catalog) : Campaign Files where
  catalog
  compiler := .onHost host config.compiler
  judge := config.judge host
  compileTimeout := config.compileTimeout

end Config

end HintFuzz
