import Mathlib.Data.List.Basic

/-!
# Targets and listeners

`prosa::io`: the settings of the peers a processor connects to and of the address it listens on.
-/

set_option autoImplicit false

namespace Prosa

abbrev Url := String

structure SslConfig where
  alpn : List String
  deriving DecidableEq, Repr

/-- `SslConfig::default`. -/
def SslConfig.default : SslConfig := ⟨[]⟩

/-- `SslConfig::set_alpn`. -/
def SslConfig.setAlpn (ssl : SslConfig) (alpn : List String) : SslConfig := { ssl with alpn }

/-- `prosa::io::stream::TargetSetting`, as a socket uses it. -/
structure TargetSetting where
  url : Url
  ssl : Option SslConfig
  connectTimeout : Nat
  deriving DecidableEq, Repr

/-- What prosa displays of a target, kept as the target. -/
structure TargetText where
  shown : TargetSetting
  deriving DecidableEq, Repr

/-- `TargetSetting::to_string`. -/
def TargetSetting.toText (target : TargetSetting) : TargetText := ⟨target⟩

/-- `prosa::io::listener::ListenerSetting`. -/
structure ListenerSetting where
  url : Url
  ssl : Option SslConfig
  deriving DecidableEq, Repr

end Prosa
