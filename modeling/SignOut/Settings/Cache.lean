import SignOut.Settings

/-!
# Keeping loaded settings

Settings are loaded once and kept until they are cleared.  A load that fails is not kept, so the
next request for the settings loads them again.
-/

namespace SignOut.Settings

/-- The settings that are kept, if any, and the number of loads that succeeded. -/
structure Cache where
  loads : Nat
  held : Option Settings

namespace Cache

/-- Nothing was loaded yet. -/
def initial : Cache :=
  { loads := 0, held := none }

/-- Forget the settings. -/
def clear (cache : Cache) : Cache :=
  { cache with held := none }

/-- The settings that are kept, or else the loaded ones, which are then kept. -/
def get (cache : Cache) (load : Except LoadError Settings) : Except LoadError Settings × Cache :=
  match cache.held, load with
  | some settings, _ => (.ok settings, cache)
  | none, .ok settings => (.ok settings, { loads := cache.loads + 1, held := some settings })
  | none, .error e => (.error e, cache)

end Cache

end SignOut.Settings
