/-!
# Resources

Amounts of CPU, memory and GPUs, what a node has and what a pod takes of it. Sums stop at the
greatest 64-bit amount and differences at zero.
-/

namespace ClusterProvisioning

/-- An amount of each resource. -/
structure Resources where
  cpuMillis : UInt64
  memoryBytes : UInt64
  gpus : UInt64
  deriving DecidableEq, Repr, Inhabited

namespace Resources

def zero : Resources := ⟨0, 0, 0⟩

/-- The sum of two amounts, or the greatest amount where the sum exceeds it. -/
def addAmount (a b : UInt64) : UInt64 :=
  .ofNat (min (a.toNat + b.toNat) (UInt64.size - 1))

/-- The difference of two amounts, or zero where it would be negative. -/
def subAmount (a b : UInt64) : UInt64 :=
  .ofNat (a.toNat - b.toNat)

def add (a b : Resources) : Resources where
  cpuMillis := addAmount a.cpuMillis b.cpuMillis
  memoryBytes := addAmount a.memoryBytes b.memoryBytes
  gpus := addAmount a.gpus b.gpus

def sub (a b : Resources) : Resources where
  cpuMillis := subAmount a.cpuMillis b.cpuMillis
  memoryBytes := subAmount a.memoryBytes b.memoryBytes
  gpus := subAmount a.gpus b.gpus

instance : Add Resources := ⟨add⟩
instance : Sub Resources := ⟨sub⟩

/-- The sum of a list of amounts, from left to right. -/
def sum (rs : List Resources) : Resources :=
  rs.foldl (· + ·) zero

/-- Whether a request fits into what is available. GPUs count only when some are requested. -/
def fits (available request : Resources) : Bool :=
  request.cpuMillis ≤ available.cpuMillis && request.memoryBytes ≤ available.memoryBytes &&
    (request.gpus == 0 || request.gpus ≤ available.gpus)

instance : ToString Resources where
  toString r := s!"cpu={r.cpuMillis.toNat}m memory={r.memoryBytes.toNat}B gpu={r.gpus.toNat}"

theorem toNat_addAmount (a b : UInt64) :
    (addAmount a b).toNat = min (a.toNat + b.toNat) (UInt64.size - 1) := by
  simp only [addAmount, UInt64.toNat_ofNat', UInt64.size]
  omega

theorem zero_addAmount (a : UInt64) : addAmount 0 a = a := by
  refine UInt64.toNat_inj.mp ?_
  have := a.toNat_lt
  rw [toNat_addAmount, UInt64.toNat_zero, Nat.zero_add, UInt64.size]
  omega

theorem zero_add (r : Resources) : zero + r = r := by
  change add zero r = r
  simp only [add, zero, zero_addAmount]

theorem toNat_subAmount (a b : UInt64) : (subAmount a b).toNat = a.toNat - b.toNat := by
  have := a.toNat_lt
  simp only [subAmount, UInt64.toNat_ofNat']
  omega

end Resources

/-- A node of the cluster as admission sees it. -/
structure NodeView where
  name : String
  /-- The first internal address that the node reports. -/
  internalAddress : Option String
  allocatable : Resources
  deriving DecidableEq, Repr

/-- What the containers of one pod request in sum. -/
structure PodFootprint where
  node : String
  requested : Resources
  deriving DecidableEq, Repr

end ClusterProvisioning
