import NetActivation.Address.Basic

set_option autoImplicit false

/-! # What is observed of the network

A snapshot is built from single observations. Observations add up, except that only the last
location and the last system domain count. -/

namespace NetActivation

structure Snapshot where
  ncus : List String := []
  enms : List String := []
  location : Option String := none
  addresses : List Address := []
  advertisedDomains : List String := []
  systemDomain : Option String := none
  essids : List String := []
  bssids : List String := []
  deriving DecidableEq, Repr

/-- A single thing observed. -/
inductive Observation where
  /-- an interface is active -/
  | ncu (name : String)
  /-- an auxiliary service is active -/
  | enm (name : String)
  /-- a location is the active one -/
  | location (name : String)
  /-- an interface has an address -/
  | address (a : Address)
  /-- the network advertises a domain -/
  | advertisedDomain (domain : String)
  /-- the system is in a domain -/
  | systemDomain (domain : String)
  /-- a wireless network is in use -/
  | essid (name : String)
  /-- an access point is in use -/
  | bssid (address : String)
  deriving DecidableEq, Repr

namespace Snapshot

def empty : Snapshot := {}

/-- A snapshot with one more observation. -/
def observe (s : Snapshot) : Observation → Snapshot
  | .ncu name => { s with ncus := s.ncus ++ [name] }
  | .enm name => { s with enms := s.enms ++ [name] }
  | .location name => { s with location := some name }
  | .address a => { s with addresses := s.addresses ++ [a] }
  | .advertisedDomain d => { s with advertisedDomains := s.advertisedDomains ++ [d] }
  | .systemDomain d => { s with systemDomain := some d }
  | .essid name => { s with essids := s.essids ++ [name] }
  | .bssid a => { s with bssids := s.bssids ++ [a] }

/-- The snapshot of a run of observations, the earliest first. -/
def ofObservations (os : List Observation) : Snapshot := os.foldl observe empty

def hasNcu (s : Snapshot) (name : String) : Bool := s.ncus.contains name

def hasEnm (s : Snapshot) (name : String) : Bool := s.enms.contains name

def hasLocation (s : Snapshot) (name : String) : Bool := s.location == some name

/-- The system's domains: at most one. -/
def systemDomains (s : Snapshot) : List String := s.systemDomain.toList

end Snapshot

end NetActivation
