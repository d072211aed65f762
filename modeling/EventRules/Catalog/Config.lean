/-
**How a catalog is opened.**

A catalog lives in memory or in a directory, and it may be opened for reading only.  The other
settings are the sizes of the caches of its database and the kind of load it is tuned for; they
change no answer, but a catalog with senseless settings is not opened at all.

Main definitions:

* `Catalog.Config`, `Catalog.Config.onDisk`, `Catalog.Config.inMemory` — settings, and the usual
  ones;
* `Catalog.ConfigFault`, `Catalog.Config.fault?` — what can be wrong with them, in the order in
  which it is reported.
-/

import EventRules.Text.Quoted

set_option relaxedAutoImplicit false
set_option autoImplicit false

namespace EventRules.Catalog

def lowMemoryProfile : String := "Cloud-Run-LowMem"

def servingProfile : String := "Safe-Serving"

def importProfile : String := "Import-Heavy"

/-- The profiles that a catalog can be tuned for; an empty one leaves the choice open. -/
def profiles : List String :=
  ["", lowMemoryProfile, servingProfile, importProfile]

def mebibytes (n : Nat) : Int :=
  n * 1048576

/-- **The settings of a catalog.** -/
structure Config where
  /-- The directory of the catalog; its database is in a directory of its own below. -/
  dataDir : String := ""
  inMemory : Bool := false
  blockCacheSize : Int := 0
  indexCacheSize : Int := 0
  compression : Bool := false
  syncWrites : Bool := false
  /-- The load that the database is tuned for. -/
  profile : String := ""
  readOnly : Bool := false
  /-- Is the database locked while it is open, with a file that says by whom? -/
  exclusive : Bool := true
  deriving DecidableEq, Repr

def Config.onDisk (dataDir : String) : Config where
  dataDir := dataDir
  blockCacheSize := mebibytes 256
  indexCacheSize := mebibytes 64
  compression := true
  profile := servingProfile

def Config.memory : Config :=
  { Config.onDisk "" with inMemory := true }

/-- **What can be wrong with settings.** -/
inductive ConfigFault where
  | noDirectory
  | blockCache (size : Int)
  | indexCache (size : Int)
  | profile (name : String)
  deriving DecidableEq, Repr

def ConfigFault.message : ConfigFault → String
  | .noDirectory => "DataDir must be specified when InMemory is false"
  | .blockCache size => "BlockCacheSize must be positive, got " ++ toString size
  | .indexCache size => "IndexCacheSize must be positive, got " ++ toString size
  | .profile name => "unknown profile " ++ Text.quote name

/-- **The first thing that is wrong with settings**, if there is any. -/
def Config.fault? (c : Config) : Option ConfigFault :=
  if c.dataDir = "" && !c.inMemory then some .noDirectory
  else if c.blockCacheSize ≤ 0 then some (.blockCache c.blockCacheSize)
  else if c.indexCacheSize ≤ 0 then some (.indexCache c.indexCacheSize)
  else if c.profile ∈ profiles then none
  else some (.profile c.profile)

end EventRules.Catalog
