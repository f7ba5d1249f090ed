/-!
# Methods of compression and their levels

A compressor is known by a name when a connection is set up and by a number
on the wire. A level tells how hard it should try, on a scale of the method's
own; a level off that scale counts as its nearest end.
-/

namespace CommandLink

/-- The methods there are. -/
inductive CompressionMethod where
  | noop
  | snappy
  | zlib
  | zstd
  deriving DecidableEq, Repr

namespace CompressionMethod

/-- The name exchanged when a connection is set up. -/
def name : CompressionMethod → String
  | noop => "noop"
  | snappy => "snappy"
  | zlib => "zlib"
  | zstd => "zstd"

/-- The number on the wire. -/
def id : CompressionMethod → UInt8
  | noop => 0
  | snappy => 1
  | zlib => 2
  | zstd => 3

/-- The name in a report. -/
def label : CompressionMethod → String
  | noop => "Noop"
  | snappy => "Snappy"
  | zlib => "Zlib"
  | zstd => "Zstd"

/-- Every method. -/
def all : List CompressionMethod := [noop, snappy, zlib, zstd]

/-- The method of a name. -/
def ofName? (name : String) : Option CompressionMethod := all.find? (·.name = name)

theorem ofName?_name (method : CompressionMethod) : ofName? method.name = some method := by
  cases method <;> decide

theorem name_injective {method other : CompressionMethod} (h : method.name = other.name) :
    method = other := by
  have := ofName?_name method
  rw [h, ofName?_name other] at this
  exact (Option.some.inj this).symm

theorem id_injective {method other : CompressionMethod} (h : method.id = other.id) :
    method = other := by
  revert h
  cases method <;> cases other <;> decide

end CompressionMethod

/-- How hard a compressor should try. -/
inductive CompressionEffort where
  | fastest
  | best
  | default
  | precise (level : UInt32)
  deriving DecidableEq, Repr

namespace CompressionEffort

instance : Inhabited CompressionEffort := ⟨default⟩

/-- The level in a report. -/
def label : CompressionEffort → String
  | fastest => "Fastest"
  | best => "Best"
  | default => "Default"
  | precise level => s!"Precise({level.toNat})"

/-- A level of the zlib scale, 0 to 9. -/
def clampZlib (level : Nat) : Nat := min level 9

/-- A level of the zstd scale, 1 to 22. -/
def clampZstd (level : Int) : Nat := (max 1 (min 22 level)).toNat

/-- The level on the zlib scale. -/
def onZlib : CompressionEffort → Nat
  | fastest => 1
  | best => 9
  | default => 6
  | precise level => clampZlib level.toNat

/-- The level on the zstd scale. -/
def onZstd : CompressionEffort → Nat
  | fastest => 1
  | best => 22
  | default => 3
  | precise level => clampZstd level.toNat

end CompressionEffort

end CommandLink
